import Rclweb.Client.OperationError
import Rclweb.Engine.Inbound

/-!
# Operation frames, down to handler and promise

An application frame that the session accepts is told by one event, under a lease on its payload.
For that event the client copies the payload, releases the lease, and calls the handler of the
channel or resolves the promise of the operation.  All this holds of every opcode but ACTION_CANCEL,
for which the engine has no event (`application_frame_surfaces`).
-/

namespace Rclweb

open Rclweb.Frame Control Transition Engine Turn Pair

namespace Engine

/-- The payload of a frame that parses lies within the declared bytes. -/
theorem payloadOutOfBounds_of_parse {bytes : List UInt8} {declaredTotal : ℕ}
    {opts : FrameOptions} {frame : DecodedFrame}
    (hparse : parseFrameDeclared bytes declaredTotal opts = .ok frame) :
    payloadOutOfBounds frame declaredTotal = false := by
  unfold parseFrameDeclared at hparse
  split_ifs at hparse
  simp only [bind_eq_ok] at hparse
  obtain ⟨_, -, _, htotal, _, -, _, -, _, -, _, -, exts, -, _, -, payload, -, hframe⟩ := hparse
  obtain rfl := Except.ok.inj hframe
  unfold checkTotal at htotal
  dsimp only at htotal
  split_ifs at htotal with hdeclared
  rw [not_not] at hdeclared
  exact decide_eq_false (Nat.not_lt.mpr hdeclared.ge)

/-- The session takes an operation frame only with an operation id. -/
theorem operationId_of_accepted {s : SessionState} {frame : DecodedFrame} {sender : Role}
    {effects : SessionEffects} {s' : SessionState}
    (h : applyServiceActionFrame s frame sender = (.ok effects, s'))
    (hoperation : isServiceOrActionOpcode frame.opcode = true) :
    ∃ operationId, Engine.frameOperationId frame = some operationId := by
  unfold applyServiceActionFrame at h
  split_ifs at h
  · cases h
  cases hgates : applyDataChannelGates s frame.channelId with
  | error err =>
    rw [hgates] at h
    cases h
  | ok u =>
    rw [hgates] at h
    dsimp only at h
    split_ifs at h
    · cases h
    · cases h
    have hrequired : operationIdRequired frame.opcode = true := hoperation
    cases hid : Transition.frameOperationId frame with
    | some operationId => exact ⟨operationId, hid⟩
    | none =>
      rw [checkOperationStream, hrequired, hid] at h
      cases h

/-- **An accepted application frame is leased, or it is an ACTION_CANCEL.** -/
theorem verdict_of_accepted {s : Session} {bytes : List UInt8} {frame : DecodedFrame}
    {effects : SessionEffects} {s' : Session}
    (hparse : parseFrameDeclared bytes (retainDeclaredLen bytes) defaultOptions = .ok frame)
    (hopcode : frame.opcode ≠ opcodeControlCbor)
    (hingest : s.ingestFrame frame = (.ok effects, s')) :
    (frame.opcode = opcodeActionCancel ∧ verdict s frame (retainDeclaredLen bytes) = .ignored) ∨
      (frame.opcode ≠ opcodeActionCancel ∧
        ∃ told, verdict s frame (retainDeclaredLen bytes) = .leased told) := by
  have hbounds : payloadOutOfBounds frame (retainDeclaredLen bytes) = false :=
    payloadOutOfBounds_of_parse hparse
  have hparked := verdict_fails_of_parked s (retainDeclaredLen bytes) hopcode
  unfold verdict at hparked ⊢
  rw [hingest] at hparked ⊢
  dsimp only at hparked ⊢
  by_cases hsample : frame.opcode = opcodeRosSample
  · rw [if_pos hsample, sampleVerdict, hbounds]
    refine .inr ⟨?_, _, rfl⟩
    rw [hsample]
    decide
  by_cases hoperation : isServiceOrActionOpcode frame.opcode = true
  · rw [if_neg hsample, if_pos hoperation, operationVerdict, hbounds, if_neg (by simp)]
    by_cases hcancel : frame.opcode = opcodeActionCancel
    · rw [if_pos hcancel]
      exact .inl ⟨hcancel, rfl⟩
    have happly : applyServiceActionFrame s.inner frame s.inner.role.peer =
        (.ok effects, s'.inner) := by
      have hfst : (applyFrame s.inner frame s.inner.role.peer).1 = .ok effects :=
        congrArg Prod.fst hingest
      have hsnd : (applyFrame s.inner frame s.inner.role.peer).2 = s'.inner :=
        congrArg (fun r => r.2.inner) hingest
      have hframe : applyFrame s.inner frame s.inner.role.peer = (.ok effects, s'.inner) :=
        Prod.ext hfst hsnd
      unfold applyFrame at hframe
      split_ifs at hframe
      · cases hframe
      · cases hframe
      · exact hframe
    obtain ⟨operationId, hid⟩ := operationId_of_accepted happly hoperation
    rw [if_neg hcancel, hid]
    exact .inr ⟨hcancel, _, rfl⟩
  · obtain ⟨code, message, hfails⟩ := hparked hsample hoperation
    rw [if_neg hsample, if_neg hoperation] at hfails
    cases hfails

/-- **The lease of a leased payload denotes it**, behind the step that took the frame. -/
theorem denotes_of_leased (lib : Library) (wasm32 : Bool) {t : Turn} (bufferId : UInt32)
    {bytes : List UInt8} {frame : DecodedFrame} {told : UInt32 → AppEvent}
    (hready : t.engine.session.phase = .ready)
    (hparse : parseFrameDeclared bytes (retainDeclaredLen bytes) defaultOptions = .ok frame)
    (hopcode : frame.opcode ≠ opcodeControlCbor)
    (hverdict : verdict t.engine.session frame (retainDeclaredLen bytes) = .leased told) :
    (handleEvent lib wasm32 t (.wsBytes bufferId bytes)).engine.Denotes t.engine.nextLeaseId
      frame := by
  have hbuf := find?_retain t bufferId bytes
  obtain ⟨n, kept, hr⟩ : ∃ n retained, (t.retain bufferId bytes).2 =
      ⟨{ t.engine with nextBufferId := n, retained := retained }, t.outcome⟩ := by
    unfold retain
    dsimp only
    split_ifs <;> exact ⟨_, _, rfl⟩
  have hsession : (t.retain bufferId bytes).2.engine.session = t.engine.session := by rw [hr]
  have hplane : (t.retain bufferId bytes).2.engine.session.phase.inSelectedPlane = true := by
    rw [hsession, hready]
    rfl
  have hframe := handleFrame_verdict lib wasm32 (t := (t.retain bufferId bytes).2)
    (t.retain bufferId bytes).1 hparse hopcode
  rw [hsession, hverdict] at hframe
  obtain ⟨-, event, -, hframe⟩ := hframe
  have hevent : handleEvent lib wasm32 t (.wsBytes bufferId bytes) =
      (((t.retain bufferId bytes).2.issueLease (t.retain bufferId bytes).1 frame).2.emit
        event).modify (ClientEngine.noteDone (t.retain bufferId bytes).1) := by
    rw [← hframe, handleEvent, handleWsBytes]
    dsimp only
    rw [if_pos hplane]
    rfl
  have hlease : (t.retain bufferId bytes).2.engine.nextLeaseId = t.engine.nextLeaseId := by rw [hr]
  refine @ClientEngine.denotes_of_holds _ _ (t.retain bufferId bytes).1 _ bytes hparse hopcode
    ⟨?_, ?_⟩
  · rw [hevent, ← hlease]
    exact Table.find?_set_self ..
  · rw [hevent]
    show (((ClientEngine.noteDone (t.retain bufferId bytes).1 _).retained.find?
      (t.retain bufferId bytes).1).map _).map _ = _
    rw [ClientEngine.find?_noteDone]
    show (((((t.retain bufferId bytes).2.issueLease (t.retain bufferId bytes).1
      frame).2.engine.retained.find? (t.retain bufferId bytes).1).map _).map _).map _ = _
    rw [ClientEngine.retained_issueLease frame hbuf]
    simp only [Table.find?_set_self, Option.map_some, if_pos]

end Engine

namespace Client

/-! ## What an event is for -/

/-- What is due for an operation event: a call of a handler, or a promise with the payload. -/
inductive Due where
  | handler (invocation : Invocation)
  | promise (promise : ℕ) (payload : List UInt8)

/-- **The handler of the channel, or the promise of the operation**, when there is one. -/
def InlineClient.due (c : InlineClient) (payload : List UInt8) : AppEvent → Option Due
  | .serviceRequest event => (c.serviceHandlers.find? event.channelId.toNat).map fun handler =>
      .handler (.request handler payload event.operationId)
  | .serviceResponse event =>
    (c.pendingCalls.find? (event.channelId.toNat, event.operationId)).map (.promise · payload)
  | .actionGoal event =>
    ((c.actionServerHandlers.find? event.channelId.toNat).bind (·.onGoal)).map fun handler =>
      .handler (.goal handler payload event.operationId)
  | .actionFeedback event => (c.actionFeedback.find? event.channelId.toNat).map fun handler =>
      .handler (.feedback handler payload event.operationId)
  | .actionResult event =>
    (c.pendingActionResults.find? (event.channelId.toNat, event.operationId)).map
      (.promise · payload)
  | .actionStatus event => (c.actionStatus.find? event.channelId.toNat).map fun handler =>
      .handler (.status handler payload event.operationId)
  | _ => none

/-- From one state to another just what is due is done. -/
def Does (c c' : InlineClient) : Option Due → Prop
  | none => c'.told = c.told ∧ c'.settled = c.settled
  | some (.handler invocation) => c'.told = c.told ++ [invocation] ∧ c'.settled = c.settled
  | some (.promise promise payload) =>
    c'.told = c.told ∧ c'.settled = settleIn c.settled promise (.resolved (.bytes payload))

/-- Whether a method goes on behind a flush. -/
def InlineClient.goesOn (c : InlineClient) (payload : Worker.Payload) (event : AppEvent) : Bool :=
  (c.onEvent payload event).frames.length != c.frames.length

/-- **An operation event is handled**: the lease is released, once, before anything else, and then,
in whatever state the flush returns to the method, what is due is done. -/
structure Handles (c : InlineClient) (payload : Worker.Payload) (event : AppEvent)
    (leaseId : UInt32) : Prop where
  released : (c.onEvent payload event).calls = c.calls ++ [Worker.HostCall.releaseLease leaseId]
  quiet : Does c (c.onEvent payload event) none
  done : ∀ c' : InlineClient, c'.frames = (c.onEvent payload event).frames →
    let c'' := if c.goesOn payload event then c'.returned else c'
    c''.calls = c'.calls ∧ Does c' c'' (c.due payload.copied event)

/-- What a frame does when the flush returns to it. -/
def Frame.due? : Frame → Option Due
  | .done _ => none
  | .response _ promise payload | .result _ promise payload => some (.promise promise payload)
  | .request handler _ operationId payload => some (.handler (.request handler payload operationId))
  | .goal handler operationId payload => some (.handler (.goal handler payload operationId))
  | .feedback handler operationId payload => some (.handler (.feedback handler payload operationId))
  | .status handler operationId payload => some (.handler (.status handler payload operationId))

theorem returned_of_frame {c : InlineClient} {frame : Frame} {rest : List Frame} {due : Due}
    (hframes : c.frames = frame :: rest) (hdue : frame.due? = some due) :
    c.returned.calls = c.calls ∧ Does c c.returned (some due) := by
  unfold InlineClient.returned
  rw [hframes]
  cases frame with
  | done promise => cases hdue
  | response key promise payload =>
    obtain rfl := Option.some.inj hdue
    exact ⟨rfl, rfl, rfl⟩
  | result key promise payload =>
    obtain rfl := Option.some.inj hdue
    exact ⟨rfl, rfl, rfl⟩
  | request handler channelId operationId payload =>
    obtain rfl := Option.some.inj hdue
    exact ⟨rfl, rfl, rfl⟩
  | goal handler operationId payload =>
    obtain rfl := Option.some.inj hdue
    exact ⟨rfl, rfl, rfl⟩
  | feedback handler operationId payload =>
    obtain rfl := Option.some.inj hdue
    exact ⟨rfl, rfl, rfl⟩
  | status handler operationId payload =>
    obtain rfl := Option.some.inj hdue
    exact ⟨rfl, rfl, rfl⟩

/-- An event whose lease is released is handled, when the frame that is pushed for what is found
does what is due for it. -/
theorem handles_of_released {ν : Type} (found : Option ν) (frame : ν → Frame) (due : ν → Due)
    {c : InlineClient} {payload : Worker.Payload} {event : AppEvent} {operation : OperationEvent}
    (hevent : c.onEvent payload event = c.released operation (found.map frame))
    (hdue : c.due payload.copied event = found.map due)
    (hframe : ∀ v, (frame v).due? = some (due v)) :
    Handles c payload event operation.leaseId := by
  cases found with
  | none =>
    have hstays : c.goesOn payload event = false := by
      rw [InlineClient.goesOn, hevent]
      exact bne_self_eq_false _
    refine ⟨by rw [hevent]; rfl, by rw [hevent]; exact ⟨rfl, rfl⟩, fun c' _ => ?_⟩
    rw [hstays, hdue]
    exact ⟨rfl, rfl, rfl⟩
  | some v =>
    have hgoes : c.goesOn payload event = true := by
      rw [InlineClient.goesOn, hevent]
      exact bne_iff_ne.mpr (Nat.succ_ne_self _)
    refine ⟨by rw [hevent]; rfl, by rw [hevent]; exact ⟨rfl, rfl⟩, fun c' hframes => ?_⟩
    rw [hgoes, hdue]
    rw [hevent] at hframes
    exact returned_of_frame hframes (hframe v)

/-- **Every operation event is handled**, in every state of the client. -/
theorem handles_operationEvent (c : InlineClient) (payload : Worker.Payload) {opcode : UInt8}
    {operation : OperationEvent} {event : AppEvent}
    (h : operationEvent opcode operation = some event) :
    Handles c payload event operation.leaseId := by
  rcases operationEvent_cases h with rfl | rfl | rfl | rfl | rfl | rfl
  all_goals exact handles_of_released _ _ _ rfl rfl fun _ => rfl

/-! ## The way of a frame -/

/-- **A frame surfaces**: one event tells it, under a lease that denotes its payload, and every
client handles the event of an operation. -/
def Surfaces (lib : Library) (wasm32 : Bool) (t : Turn) (bufferId : UInt32) (bytes : List UInt8)
    (frame : DecodedFrame) : Prop :=
  ∃ event, (handleEvent lib wasm32 t (.wsBytes bufferId bytes)).outcome.events =
      t.outcome.events ++ [event] ∧
    Tells frame t.engine.nextLeaseId event ∧
    (handleEvent lib wasm32 t (.wsBytes bufferId bytes)).engine.Denotes t.engine.nextLeaseId
      frame ∧
    (frame.opcode ≠ opcodeRosSample → ∀ (c : InlineClient) (payload : Worker.Payload),
      Handles c payload event t.engine.nextLeaseId)

variable (lib : Library) (wasm32 : Bool) {t : Turn} (bufferId : UInt32) {bytes : List UInt8}
  {frame : DecodedFrame}

theorem surfaces_iff (hready : t.engine.session.phase = .ready)
    (hparse : parseFrameDeclared bytes (retainDeclaredLen bytes) defaultOptions = .ok frame)
    (hopcode : frame.opcode ≠ opcodeControlCbor) (haccepted : Accepts t frame) :
    Surfaces lib wasm32 t bufferId bytes frame ↔ frame.opcode ≠ opcodeActionCancel := by
  have happ : t.application? (.wsBytes bufferId bytes) = some frame := by
    have hplane : t.engine.session.phase.inSelectedPlane = true := by
      rw [hready]
      rfl
    unfold application?
    dsimp only
    rw [if_pos hplane, hparse]
    exact if_neg hopcode
  have hhandle := handleEvent_application lib wasm32 happ
  rw [verdictOn, HostEvent.bytes?, Option.getD_some] at hhandle
  obtain ⟨effects, session, hingest⟩ := haccepted
  rcases verdict_of_accepted hparse hopcode hingest with ⟨hcancel, hv⟩ | ⟨hcancel, told, hv⟩
  · rw [hv] at hhandle
    refine iff_of_false ?_ fun hne => hne hcancel
    rintro ⟨event, hevents, -⟩
    rw [hhandle.2.1] at hevents
    exact absurd hevents.symm (by simp)
  · rw [hv] at hhandle
    obtain ⟨-, event, htells, hevents, -⟩ := hhandle
    refine iff_of_true ⟨event, hevents, htells,
      denotes_of_leased lib wasm32 bufferId hready hparse hopcode hv, fun hsample c payload => ?_⟩
      hcancel
    rw [Tells, if_neg hsample] at htells
    obtain ⟨operationId, -, hevent⟩ := htells
    exact handles_operationEvent c payload hevent

/-- **An accepted application frame surfaces exactly when it is no ACTION_CANCEL**: one event with
its channel, operation and sequence, a lease on exactly its payload, which the client releases once,
and exactly the handler or the promise it is for. -/
theorem application_frame_surfaces (hready : t.engine.session.phase = .ready)
    (hparse : parseFrameDeclared bytes (retainDeclaredLen bytes) defaultOptions = .ok frame)
    (hopcode : frame.opcode ≠ opcodeControlCbor) (haccepted : Accepts t frame) :
    Surfaces lib wasm32 t bufferId bytes frame ↔ frame.opcode ≠ opcodeActionCancel :=
  surfaces_iff lib wasm32 bufferId hready hparse hopcode haccepted

/-! ## An action server -/

/-- The handshake, and an action server on channel 1. -/
def actionSession : List (List HostEvent) :=
  ClientEngine.subscription.take 4 ++
    [[.command (.openAction ⟨zeroCorrelation, 1, "/name", "pkg/Type", 0, false⟩)],
      ClientEngine.peerControl 1
        (Gateway.channelReadyActionAllow Gateway.sampleConfig Gateway.zeroCorrelation 1 2)]

/-- The first frame of an operation on channel 1. -/
def operationFrame (opcode : UInt8) (operationId payload : List UInt8) : List UInt8 :=
  match Encode.encodeExtensionArea [⟨Extension.operationIdExtensionType, true, operationId⟩] with
  | .ok area => Gateway.encoded (Encode.encodeFrame (appHeader opcode true 1 0) area payload)
  | .error _ => []

/-- Whether a ready engine takes a frame. -/
def takesFrame (opcode : UInt8) (bytes : List UInt8) (e : ClientEngine) : Bool :=
  e.session.phase == .ready &&
    (parseFrameDeclared bytes (retainDeclaredLen bytes) defaultOptions).toOption.any fun frame =>
      frame.opcode == opcode && (e.session.ingestFrame frame).1.isOk

theorem exists_accepted {opcode : UInt8} {operationId payload : List UInt8}
    (hcheck : (ClientEngine.replay noLibrary false (fun _ _ => true) actionSession {}).any
      (takesFrame opcode (operationFrame opcode operationId payload)) = true) :
    ∃ e frame, ClientEngine.Reachable noLibrary false (fun _ _ => true) e ∧
      e.session.phase = .ready ∧ frame.opcode = opcode ∧ Accepts ⟨e, {}⟩ frame ∧
      parseFrameDeclared (operationFrame opcode operationId payload)
        (retainDeclaredLen (operationFrame opcode operationId payload)) defaultOptions =
          .ok frame := by
  obtain ⟨e, hreach, hcheck⟩ := ClientEngine.reachable_of_check noLibrary false (fun _ _ => true)
    actionSession _ hcheck
  rw [takesFrame, Bool.and_eq_true, beq_iff_eq, Option.any_eq_true] at hcheck
  obtain ⟨hready, frame, hparse, hframe⟩ := hcheck
  rw [Bool.and_eq_true, beq_iff_eq] at hframe
  refine ⟨e, frame, hreach, hready, hframe.1, ?_, ?_⟩
  · cases hingest : e.session.ingestFrame frame with
    | mk result session =>
      rw [hingest] at hframe
      cases result with
      | error err => exact absurd hframe.2 Bool.false_ne_true
      | ok effects => exact ⟨effects, session, hingest⟩
  · generalize parseFrameDeclared _ _ _ = parsed at hparse ⊢
    cases parsed with
    | error err => cases hparse
    | ok parsed => exact congrArg Except.ok (Option.some.inj hparse)

theorem not_application_frame_surfaces : ∃ e frame,
    ClientEngine.Reachable noLibrary false (fun _ _ => true) e ∧ e.session.phase = .ready ∧
      Accepts ⟨e, {}⟩ frame ∧ ¬ Surfaces noLibrary false ⟨e, {}⟩ 0
        (operationFrame opcodeActionCancel (sampleId 1) [1]) frame := by
  obtain ⟨e, frame, hreach, hready, hopcode, haccepted, hparse⟩ :=
    @exists_accepted opcodeActionCancel (sampleId 1) [1] (by decide +kernel)
  refine ⟨e, frame, hreach, hready, haccepted, ?_⟩
  rw [surfaces_iff noLibrary false 0 hready hparse (by rw [hopcode]; decide) haccepted]
  exact not_not_intro hopcode

theorem application_frame_surfaces_of_goal : ∃ e frame,
    Surfaces noLibrary false ⟨e, {}⟩ 0 (operationFrame opcodeActionGoal (sampleId 1) [1])
      frame := by
  obtain ⟨e, frame, -, hready, hopcode, haccepted, hparse⟩ :=
    @exists_accepted opcodeActionGoal (sampleId 1) [1] (by decide +kernel)
  refine ⟨e, frame, (application_frame_surfaces noLibrary false 0 hready hparse
    (by rw [hopcode]; decide) haccepted).mpr ?_⟩
  rw [hopcode]
  decide

end Client
end Rclweb
