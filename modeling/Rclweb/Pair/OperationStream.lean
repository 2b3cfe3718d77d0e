import Rclweb.Engine.Outbound
import Rclweb.Library.Numbering
import Rclweb.Pair.System
import Rclweb.Session.Precedence

/-!
# Two numberings of operation frames

The client engine numbers the service and action frames of a channel in one row; the gateway
counts the frames of every operation id on their own.  The two numberings coincide exactly when
one operation at most is sent on the channel, and no attempt is lost before it.

An attempt is a command that uses up a number.  Whether it is sent too depends on the kind of
the channel, the operation id and the length of the payload alone (`Attempt`), and between the
commands the engine may do anything that leaves the channel's stream as it is.
-/

namespace Rclweb

open Rclweb.Frame Transition

namespace Engine

/-! ## Commands that send an operation frame -/

/-- What a command sends: the section of the type is encoded first, if there is one. -/
structure OperationCommand where
  channelId : UInt32
  opcode : UInt8
  operationId : OperationId
  payloadKind : Option GeneratedOpKind
  bytes : List UInt8
  reliable : Bool

/-- The operation frame a command is for. -/
def AppCommand.operation : AppCommand → Option OperationCommand
  | .callService channelId operationId request =>
    some ⟨channelId, opcodeServiceRequest, operationId, some .request, request, true⟩
  | .sendServiceResponse channelId operationId response =>
    some ⟨channelId, opcodeServiceResponse, operationId, some .response, response, true⟩
  | .sendActionGoal channelId operationId goal =>
    some ⟨channelId, opcodeActionGoal, operationId, some .goal, goal, true⟩
  | .cancelAction channelId operationId =>
    some ⟨channelId, opcodeActionCancel, operationId, none, [], true⟩
  | .sendActionFeedback channelId operationId feedback =>
    some ⟨channelId, opcodeActionFeedback, operationId, some .feedback, feedback, false⟩
  | .sendActionResult channelId operationId result =>
    some ⟨channelId, opcodeActionResult, operationId, some .result, result, true⟩
  | .sendActionStatus channelId operationId status =>
    some ⟨channelId, opcodeActionStatus, operationId, none, status, false⟩
  | _ => none

/-- The opcodes of operation commands, and that the reliable ones are sent reliably. -/
theorem AppCommand.operation_opcode {cmd : AppCommand} {oc : OperationCommand}
    (h : cmd.operation = some oc) :
    isServiceOrActionOpcode oc.opcode = true ∧ reliableRequired oc.opcode = oc.reliable := by
  cases cmd <;> simp only [operation, Option.some.injEq, reduceCtorEq] at h
  all_goals
    subst h
    exact ⟨rfl, rfl⟩

/-- The payload on the wire, when it can be encoded. -/
def OperationCommand.payload (lib : Library) (typeName : String) (oc : OperationCommand) :
    Option (List UInt8) :=
  match oc.payloadKind.bind (generatedOpTypeName typeName) with
  | none => some oc.bytes
  | some typeSection => lib.encodeHostValue typeSection oc.bytes

/-- **The operation fits the channel**: the client may send the opcode, the id is no zero that
is not allowed, and the payload is not too long. -/
def OperationCommand.Fits (kind : OperationKind) (oc : OperationCommand) (payload : List UInt8) :
    Prop :=
  kind.opcodeSender oc.opcode = some .client ∧
    (oc.operationId = OperationId.zero → operationIdMayBeZero oc.opcode = true) ∧
    payload.length ≤ framePayloadMaxBytes

instance (kind : OperationKind) (oc : OperationCommand) (payload : List UInt8) :
    Decidable (oc.Fits kind payload) := by
  unfold OperationCommand.Fits
  infer_instance

/-- **An attempt**: a command whose payload is encoded uses up a number, and is sent when it
fits the channel. -/
def OperationCommand.attempt (lib : Library) (kind : OperationKind) (typeName : String)
    (oc : OperationCommand) : Option (OperationId × Bool) :=
  (oc.payload lib typeName).map fun payload => (oc.operationId, decide (oc.Fits kind payload))

end Engine

open Engine

/-- The operations of an active service or action channel. -/
def ClientEngine.operations (e : ClientEngine) (channelId : UInt32) : Option ActiveOperations :=
  (e.activeServices.find? channelId).or (e.activeActions.find? channelId)

namespace Engine.Turn

variable (t : Turn)

/-- The type of an operation is the one its channel was opened with. -/
theorem encodeOpPayload_of_operations (lib : Library) {channelId : UInt32} {ops : ActiveOperations}
    (hops : t.engine.operations channelId = some ops) (op : GeneratedOpKind) (bytes : List UInt8) :
    encodeOpPayload lib t channelId op bytes =
      match generatedOpTypeName ops.typeName op with
      | none => some bytes
      | some typeSection => lib.encodeHostValue typeSection bytes := by
  have htype : ((t.engine.activeServices.find? channelId).map (·.typeName)).or
      ((t.engine.activeActions.find? channelId).map (·.typeName)) = some ops.typeName := by
    unfold ClientEngine.operations at hops
    cases hs : t.engine.activeServices.find? channelId with
    | some svc =>
      rw [hs] at hops
      rw [Option.some.inj hops]
      rfl
    | none =>
      rw [hs, Option.none_or] at hops
      rw [hops]
      rfl
  unfold encodeOpPayload
  rw [htype]
  rfl

/-- What an operation command does: its payload is encoded and sent, or it fails. -/
theorem handleCommand_operation (lib : Library) {cmd : AppCommand} {oc : OperationCommand}
    (h : cmd.operation = some oc) {ops : ActiveOperations}
    (hops : t.engine.operations oc.channelId = some ops) :
    (∀ payload, oc.payload lib ops.typeName = some payload → handleCommand lib t cmd =
      t.sendServiceActionFrame oc.channelId oc.opcode oc.operationId payload oc.reliable) ∧
      (oc.payload lib ops.typeName = none → ∃ failure, handleCommand lib t cmd = t.emit failure) := by
  have hencode := t.encodeOpPayload_of_operations lib hops
  cases cmd <;> simp only [AppCommand.operation, Option.some.injEq, reduceCtorEq] at h
  all_goals
    subst h
    dsimp only at hencode
    simp only [OperationCommand.payload, Option.bind_some, Option.bind_none, handleCommand,
      sendOperation, hencode]
    refine ⟨fun payload hpayload => ?_, fun hpayload => ?_⟩
  case cancelAction.refine_1 | sendActionStatus.refine_1 => rw [Option.some.inj hpayload]
  case cancelAction.refine_2 | sendActionStatus.refine_2 => contradiction
  all_goals rw [hpayload]
  all_goals exact ⟨_, rfl⟩

end Engine.Turn

/-! ## The frame of an operation -/

/-- The frame an operation command is sent as. -/
def operationFrame (oc : OperationCommand) (sequence : UInt64) (payload : List UInt8) :
    DecodedFrame :=
  ofApplication oc.opcode oc.reliable oc.channelId sequence 2
    [⟨Extension.operationIdExtensionType, true, oc.operationId.1⟩] 20 payload

theorem frameOperationId_operationFrame (oc : OperationCommand) (sequence : UInt64)
    (payload : List UInt8) :
    Transition.frameOperationId (operationFrame oc sequence payload) = some oc.operationId.1 := by
  simp [Transition.frameOperationId, operationFrame, ofApplication, oc.operationId.2]

/-- An operation frame has its id and, where that is required, the reliable flag. -/
theorem checkOperationStream_operationFrame {oc : OperationCommand}
    (hopcode : isServiceOrActionOpcode oc.opcode = true)
    (hreliable : reliableRequired oc.opcode = oc.reliable) (sequence : UInt64)
    (payload : List UInt8) :
    checkOperationStream (operationFrame oc sequence payload) = .ok () ↔
      (oc.operationId = OperationId.zero → operationIdMayBeZero oc.opcode = true) := by
  have hflags : (reliableRequired oc.opcode &&
      (operationFrame oc sequence payload).flags &&& flagRosReliable == 0) = false := by
    rw [hreliable]
    cases hr : oc.reliable with
    | false => rfl
    | true => simp [operationFrame, ofApplication, received, applicationHeader, hr, flagRosReliable]
  have hzero : oc.operationId.1 = List.replicate 16 0 ↔ oc.operationId = OperationId.zero :=
    ⟨fun h => Subtype.ext h, fun h => by rw [h]; rfl⟩
  unfold checkOperationStream
  rw [frameOperationId_operationFrame]
  have hreq : operationIdRequired (operationFrame oc sequence payload).opcode = true := hopcode
  have hop : (operationFrame oc sequence payload).opcode = oc.opcode := rfl
  rw [if_pos hreq]
  simp only [hop, hflags, hzero]
  by_cases hid : oc.operationId = OperationId.zero
  · cases hmay : operationIdMayBeZero oc.opcode <;> simp [hid]
  · simp [hid]

/-- What the session needs of a channel to send operations on it. -/
structure Session.Streams (s : Session) (channelId : UInt32) (kind : OperationKind) : Prop where
  ready : s.phase = .ready
  client : s.inner.role = .client
  active : s.inner.view.channel channelId = some (.active, kind)

/-- Past the gates an operation frame is checked for its kind, its sender and its stream. -/
theorem applyServiceActionFrame_of_gates {state : SessionState} {frame : DecodedFrame}
    (hready : state.phase = .ready)
    (hgates : applyDataChannelGates state frame.channelId = .ok ()) (sender : Role) :
    applyServiceActionFrame state frame sender =
      if !(activeKind state frame.channelId).allowsOpcode frame.opcode then
        reject state (.protocolViolation "opcode_operation_kind_mismatch" 0 22)
      else if (activeKind state frame.channelId).opcodeSender frame.opcode ≠ some sender then
        reject state (.protocolViolation "service_action_wrong_direction" 0 22)
      else
        match checkOperationStream frame with
        | .error e => reject state e
        | .ok () => accept state {} := by
  unfold applyServiceActionFrame
  rw [hready, hgates]
  rfl

/-- **The session records an operation frame exactly when it is legal on the channel**, and is
the same afterwards. -/
theorem Session.Streams.recordSendFrame {s : Session} {kind : OperationKind}
    {oc : OperationCommand} (h : s.Streams oc.channelId kind)
    (hopcode : isServiceOrActionOpcode oc.opcode = true)
    (hreliable : reliableRequired oc.opcode = oc.reliable) (sequence : UInt64)
    (payload : List UInt8) :
    if kind.opcodeSender oc.opcode = some .client ∧
        (oc.operationId = OperationId.zero → operationIdMayBeZero oc.opcode = true) then
      s.recordSendFrame (operationFrame oc sequence payload) = (.ok {}, s)
    else ∃ e, s.recordSendFrame (operationFrame oc sequence payload) = (.error e, s) := by
  set frame := operationFrame oc sequence payload with hframe
  have hstate : s.inner.channels.state oc.channelId = .active := by
    rw [SessionState.state_eq, h.active]
    rfl
  have hkind : activeKind s.inner oc.channelId = kind := by
    have hactive := SessionState.state_eq_active s.inner hstate
    rw [h.active] at hactive
    exact (Prod.mk.inj (Option.some.inj hactive)).2.symm
  have hne : oc.opcode ≠ opcodeControlCbor ∧ oc.opcode ≠ opcodeRosSample := by
    constructor <;> intro heq <;> rw [heq] at hopcode <;> exact absurd hopcode (by decide)
  have hready : s.inner.phase = .ready := h.ready
  have hlive := live_of_ready hready
  have hop : frame.opcode = oc.opcode := rfl
  have happly : applyFrame s.inner frame .client =
      applyServiceActionFrame s.inner frame .client := by
    unfold applyFrame
    rw [hop]
    rw [hlive.1, hlive.2, if_neg (by simp), if_neg (by simp), if_neg hne.1, if_neg hne.2,
      if_pos hopcode]
  have hgates : applyDataChannelGates s.inner frame.channelId = .ok () := by
    have hchannel : frame.channelId = oc.channelId := rfl
    rw [applyDataChannelGates, hchannel, hstate]
  have hservice := applyServiceActionFrame_of_gates hready hgates .client
  rw [hop, show frame.channelId = oc.channelId from rfl, hkind] at hservice
  have hrecord : s.recordSendFrame frame =
      Session.ofOutcome (applyServiceActionFrame s.inner frame .client) := by
    rw [Session.recordSendFrame, h.client, happly]
  have hcheck := checkOperationStream_operationFrame hopcode hreliable sequence payload
  rw [← hframe] at hcheck
  by_cases hsender : kind.opcodeSender oc.opcode = some .client
  · rw [allowsOpcode_of_opcodeSender hsender, if_neg (by simp),
      if_neg (not_not_intro hsender)] at hservice
    by_cases hid : oc.operationId = OperationId.zero → operationIdMayBeZero oc.opcode = true
    · rw [if_pos ⟨hsender, hid⟩, hrecord, hservice, hcheck.mpr hid]
      rfl
    · rw [if_neg fun h => hid h.2, hrecord, hservice]
      cases hc : checkOperationStream frame with
      | ok u => exact absurd (hcheck.mp hc) hid
      | error e => exact ⟨e, rfl⟩
  · rw [if_neg fun h => hsender h.1, hrecord, hservice]
    split <;> exact ⟨_, rfl⟩

/-! ## One command -/

/-- **What a channel's stream is**: the engine is open, the session takes operations on the
channel, and the channel is in one of the two tables. -/
structure Streaming (e : ClientEngine) (channelId : UInt32) (kind : OperationKind)
    (ops : ActiveOperations) : Prop extends Session.Streams e.session channelId kind where
  isOpen : e.closed = false
  nonzero : channelId ≠ 0
  table : e.operations channelId = some ops

/-- A number of the stream has been used. -/
def Engine.ActiveOperations.used (ops : ActiveOperations) (operationId : OperationId) :
    ActiveOperations :=
  { ops with nextSeq := ops.nextSeq + 1, seqOut := ops.seqOut.set operationId ops.nextSeq }

/-- Bytes the gateway reads as a frame of an operation on a channel, with a sequence. -/
def IsOperationFrame (bytes : List UInt8) (channelId : UInt32) (operationId : OperationId)
    (sequence : UInt64) : Prop :=
  ∃ frame, parseFrame bytes defaultOptions = .ok frame ∧ frame.channelId = channelId ∧
    Gateway.frameOperationId frame = some operationId ∧ frame.sequence = sequence

namespace Streaming

variable {channelId : UInt32} {kind : OperationKind} {ops : ActiveOperations}

/-- The sequence of the next frame is the number of the channel, and is used up. -/
theorem takeOperationSequence {t : Engine.Turn} (h : Streaming t.engine channelId kind ops)
    (operationId : OperationId) :
    ∃ e', t.takeOperationSequence channelId operationId = some (ops.nextSeq, ⟨e', t.outcome⟩) ∧
      e'.session = t.engine.session ∧ Streaming e' channelId kind (ops.used operationId) := by
  have htable := h.table
  unfold ClientEngine.operations at htable
  unfold Engine.Turn.takeOperationSequence
  cases hs : t.engine.activeServices.find? channelId with
  | some svc =>
    rw [hs] at htable
    obtain rfl : svc = ops := Option.some.inj htable
    exact ⟨_, rfl, rfl,
      { ready := h.ready, client := h.client, active := h.active, isOpen := h.isOpen
        nonzero := h.nonzero
        table := by simp [ClientEngine.operations, ActiveOperations.used] }⟩
  | none =>
    rw [hs, Option.none_or] at htable
    rw [htable]
    exact ⟨_, rfl, rfl,
      { ready := h.ready, client := h.client, active := h.active, isOpen := h.isOpen
        nonzero := h.nonzero
        table := by simp [ClientEngine.operations, ActiveOperations.used, hs] }⟩

/-- A frame that is encoded is one the gateway reads. -/
theorem isOperationFrame_of_parse {bytes payload : List UInt8} {oc : OperationCommand}
    {sequence : UInt64}
    (h : parseFrame bytes defaultOptions = .ok (operationFrame oc sequence payload)) :
    IsOperationFrame bytes oc.channelId oc.operationId sequence := by
  refine ⟨_, h, rfl, ?_, rfl⟩
  simp [Gateway.frameOperationId, operationFrame, ofApplication, Gateway.operationIdOf,
    oc.operationId.2]

/-- The extension area of an operation frame. -/
def operationArea (oc : OperationCommand) : List UInt8 :=
  [Extension.operationIdExtensionType, 1, 0, 16] ++ oc.operationId.1

/-- **An operation frame is encoded exactly when its payload is not too long**, and then parses. -/
theorem encodeFrame_operation {oc : OperationCommand}
    (hopcode : isServiceOrActionOpcode oc.opcode = true) (hnonzero : oc.channelId ≠ 0)
    (sequence : ℕ) (payload : List UInt8) :
    if payload.length ≤ framePayloadMaxBytes then
      ∃ bytes, Encode.encodeFrame
          (Engine.Turn.appHeader oc.opcode oc.reliable oc.channelId sequence) (operationArea oc)
          payload = .ok bytes ∧
        parseFrame bytes defaultOptions =
          .ok (operationFrame oc (UInt64.ofNat sequence) payload)
    else ∃ err, Encode.encodeFrame
      (Engine.Turn.appHeader oc.opcode oc.reliable oc.channelId sequence) (operationArea oc)
      payload = .error err := by
  have hlen : (operationArea oc).length = 20 := by simp [operationArea, oc.operationId.2]
  split
  · next hle =>
    have hframe : EncodesFrame
        (applicationHeader oc.opcode oc.reliable oc.channelId (UInt64.ofNat sequence) 2)
        (operationArea oc) payload _ :=
      { area_aligned := by rw [hlen]
        area_le := by rw [hlen]; decide
        payload_le := hle
        control_le := fun hop => by
          have hctl : oc.opcode = opcodeControlCbor := hop
          rw [hctl] at hopcode
          exact absurd hopcode (by decide)
        eq := rfl }
    have hallows : opcodeAllowsRosReliable oc.opcode = true := by
      simp only [isServiceOrActionOpcode, Bool.or_eq_true] at hopcode
      simp only [opcodeAllowsRosReliable, Bool.or_eq_true]
      tauto
    exact ⟨_, encodeFrame_eq_ok_iff.mpr hframe,
      parseFrame_operation oc.operationId.2 hframe hallows hnonzero (by decide)⟩
  · next hlong =>
    cases hencode : Encode.encodeFrame
        (Engine.Turn.appHeader oc.opcode oc.reliable oc.channelId sequence) (operationArea oc)
        payload with
    | error err => exact ⟨err, rfl⟩
    | ok bytes => exact absurd (encodeFrame_eq_ok_iff.mp hencode).payload_le hlong

/-- **Sending an operation frame** uses up a number; the frame is queued when it fits. -/
theorem send {t : Engine.Turn} {oc : OperationCommand}
    (h : Streaming t.engine oc.channelId kind ops)
    (hopcode : isServiceOrActionOpcode oc.opcode = true)
    (hreliable : reliableRequired oc.opcode = oc.reliable) (payload : List UInt8)
    (hempty : t.outcome.outbound = []) :
    let t' := t.sendServiceActionFrame oc.channelId oc.opcode oc.operationId payload oc.reliable
    Streaming t'.engine oc.channelId kind (ops.used oc.operationId) ∧
      if oc.Fits kind payload then
        ∃ bytes, t'.outcome.outbound.map (·.bytes) = [bytes] ∧
          IsOperationFrame bytes oc.channelId oc.operationId (UInt64.ofNat ops.nextSeq)
      else t'.outcome.outbound = [] := by
  obtain ⟨e', htake, hsession, hstream⟩ := h.takeOperationSequence oc.operationId
  have harea : Encode.encodeExtensionArea [Engine.Turn.operationIdExtension oc.operationId] =
      .ok (operationArea oc) := Extension.encodeExtensionArea_operationId oc.operationId.2
  have hencode := encodeFrame_operation hopcode h.nonzero ops.nextSeq payload
  have hrecord := h.toStreams.recordSendFrame hopcode hreliable (UInt64.ofNat ops.nextSeq) payload
  intro t'
  have ht' : t' = t.sendServiceActionFrame oc.channelId oc.opcode oc.operationId payload
      oc.reliable := rfl
  simp only [Engine.Turn.sendServiceActionFrame, htake, harea] at ht'
  by_cases hle : payload.length ≤ framePayloadMaxBytes
  swap
  · rw [if_neg hle] at hencode
    obtain ⟨err, hencode⟩ := hencode
    rw [hencode] at ht'
    rw [if_neg fun hfits => hle hfits.2.2, ht']
    exact ⟨hstream, hempty⟩
  rw [if_pos hle] at hencode
  obtain ⟨bytes, hencode, hparse⟩ := hencode
  simp only [hencode, hparse, hsession] at ht'
  by_cases hlegal : kind.opcodeSender oc.opcode = some .client ∧
      (oc.operationId = OperationId.zero → operationIdMayBeZero oc.opcode = true)
  swap
  · rw [if_neg hlegal] at hrecord
    obtain ⟨err, hrecord⟩ := hrecord
    rw [hrecord] at ht'
    rw [if_neg fun hfits => hlegal ⟨hfits.1, hfits.2.1⟩, ht']
    exact ⟨hstream, hempty⟩
  rw [if_pos hlegal] at hrecord
  rw [hrecord] at ht'
  rw [if_pos ⟨hlegal.1, hlegal.2, hle⟩, ht']
  have hsame : ({ e' with session := t.engine.session } : ClientEngine) = e' := by rw [← hsession]
  simp only [Engine.Turn.pushOutbound, Engine.Turn.modify, hsame, hempty, List.nil_append]
  exact ⟨{ hstream with }, bytes, rfl, isOperationFrame_of_parse hparse⟩

/-- Giving back buffers leaves the stream alone. -/
theorem sweepReleased {t : Engine.Turn} (h : Streaming t.engine channelId kind ops) :
    Streaming t.sweepReleased.engine channelId kind ops := { h with }

/-- **A command in a turn of its own**: no number and no frame when its payload is not encoded,
and otherwise the next number, with a frame when it fits. -/
theorem poll {e : ClientEngine} {oc : OperationCommand} (h : Streaming e oc.channelId kind ops)
    (lib : Library) (wasm32 : Bool) {cmd : AppCommand} (hcmd : cmd.operation = some oc) :
    let r := e.poll lib wasm32 [.command cmd]
    match oc.attempt lib kind ops.typeName with
    | none => Streaming r.1 oc.channelId kind ops ∧ r.2.outbound = []
    | some (operationId, sent) =>
      Streaming r.1 oc.channelId kind (ops.used operationId) ∧
        if sent then
          ∃ bytes, r.2.outbound.map (·.bytes) = [bytes] ∧
            IsOperationFrame bytes oc.channelId operationId (UInt64.ofNat ops.nextSeq)
        else r.2.outbound = [] := by
  intro r
  have hr : r = _ := ClientEngine.poll_singleton lib wasm32 e (.command cmd) h.isOpen
  obtain ⟨hsome, hnone⟩ :=
    Engine.Turn.handleCommand_operation (⟨e, {}⟩ : Engine.Turn) lib hcmd h.table
  obtain ⟨hopcode, hreliable⟩ := AppCommand.operation_opcode hcmd
  rw [hr, OperationCommand.attempt]
  cases hpayload : oc.payload lib ops.typeName with
  | none =>
    obtain ⟨failure, hhandle⟩ := hnone hpayload
    rw [Engine.Turn.handleEvent, hhandle]
    exact ⟨{ h with }, rfl⟩
  | some payload =>
    rw [Engine.Turn.handleEvent, hsome payload hpayload]
    obtain ⟨hstream, hout⟩ := send (t := ⟨e, {}⟩) h hopcode hreliable payload rfl
    refine ⟨hstream.sweepReleased, ?_⟩
    by_cases hfits : oc.Fits kind payload
    · rw [if_pos hfits] at hout
      rw [if_pos (decide_eq_true hfits)]
      exact hout
    · rw [if_neg hfits] at hout
      rw [if_neg (by simpa using hfits)]
      exact hout

end Streaming

/-! ## Runs of commands -/

/-- **A run of operation commands on a channel**, each in a turn of its own, with the bytes they
send.  In between the engine may take turns that leave the channel's stream as it is. -/
inductive StreamRun (lib : Library) (wasm32 : Bool) (channelId : UInt32) :
    ClientEngine → List OperationCommand → List (List UInt8) → ClientEngine → Prop
  | nil (e : ClientEngine) : StreamRun lib wasm32 channelId e [] [] e
  | send {e e' : ClientEngine} {cmd : AppCommand} {oc : OperationCommand}
      {ocs : List OperationCommand} {out : List (List UInt8)} :
      cmd.operation = some oc → oc.channelId = channelId →
      StreamRun lib wasm32 channelId (e.poll lib wasm32 [.command cmd]).1 ocs out e' →
      StreamRun lib wasm32 channelId e (oc :: ocs)
        ((e.poll lib wasm32 [.command cmd]).2.outbound.map (·.bytes) ++ out) e'
  | other {e e' : ClientEngine} (events : List HostEvent) {ocs : List OperationCommand}
      {out : List (List UInt8)} :
      (∀ kind ops, Streaming e channelId kind ops →
        Streaming (e.poll lib wasm32 events).1 channelId kind ops) →
      StreamRun lib wasm32 channelId (e.poll lib wasm32 events).1 ocs out e' →
      StreamRun lib wasm32 channelId e ocs out e'

/-- The operation and the sequence of a frame, as the gateway reads them. -/
def operationSequence (bytes : List UInt8) : Option (OperationId × UInt64) :=
  match parseFrame bytes defaultOptions with
  | .ok frame => (Gateway.frameOperationId frame).map (·, frame.sequence)
  | .error _ => none

theorem operationSequence_eq {bytes : List UInt8} {channelId : UInt32} {operationId : OperationId}
    {sequence : UInt64} (h : IsOperationFrame bytes channelId operationId sequence) :
    operationSequence bytes = some (operationId, sequence) := by
  obtain ⟨frame, hparse, -, hid, hseq⟩ := h
  simp only [operationSequence, hparse, hid, hseq, Option.map_some]

/-- A number as it goes on the wire. -/
def onWire (m : OperationId × ℕ) : OperationId × UInt64 := (m.1, UInt64.ofNat m.2)

/-- The commands that use up a number. -/
def attempts (lib : Library) (kind : OperationKind) (typeName : String)
    (ocs : List OperationCommand) : List (OperationId × Bool) :=
  ocs.filterMap (·.attempt lib kind typeName)

/-- **What a run sends** is what is sent of its attempts, numbered in one row. -/
theorem StreamRun.sequences {lib : Library} {wasm32 : Bool} {channelId : UInt32}
    {e e' : ClientEngine} {ocs : List OperationCommand} {out : List (List UInt8)}
    (hrun : StreamRun lib wasm32 channelId e ocs out e') {kind : OperationKind}
    {ops : ActiveOperations} (h : Streaming e channelId kind ops) :
    out.filterMap operationSequence =
      (Numbering.numbered ops.nextSeq (attempts lib kind ops.typeName ocs)).map onWire := by
  induction hrun generalizing ops with
  | nil => rfl
  | other events hkeeps _ ih => exact ih (hkeeps kind ops h)
  | @send e e' cmd oc ocs out hcmd hchannel _ ih =>
    subst hchannel
    have hpoll := h.poll lib wasm32 hcmd
    cases hattempt : oc.attempt lib kind ops.typeName with
    | none =>
      simp only [hattempt] at hpoll
      have hrest : attempts lib kind ops.typeName (oc :: ocs) = attempts lib kind ops.typeName ocs := by
        simp [attempts, hattempt]
      rw [hpoll.2, hrest]
      exact ih hpoll.1
    | some a =>
      obtain ⟨operationId, sent⟩ := a
      simp only [hattempt] at hpoll
      have hrest : attempts lib kind ops.typeName (oc :: ocs) =
          (operationId, sent) :: attempts lib kind ops.typeName ocs := by
        simp [attempts, hattempt]
      have hnext := ih hpoll.1
      rw [hrest, List.filterMap_append, hnext]
      cases sent with
      | true =>
        rw [if_pos rfl] at hpoll
        obtain ⟨bytes, hbytes, hframe⟩ := hpoll.2
        rw [hbytes, Numbering.numbered_cons_sent]
        simp [operationSequence_eq hframe, onWire, ActiveOperations.used]
      | false =>
        rw [if_neg (by simp)] at hpoll
        rw [hpoll.2, Numbering.numbered_cons_lost]
        rfl

/-! ## What the gateway expects -/

/-- **The sequences of every operation are `0, 1, 2, …` in order.** -/
def WireContiguous (l : List (OperationId × UInt64)) : Prop :=
  ∀ operationId, (l.filter fun m => m.1 = operationId).map Prod.snd =
    (List.range (l.filter fun m => m.1 = operationId).length).map UInt64.ofNat

/-- The gateway admits the frames of a channel one after the other. -/
def Gateway.admitAll : ChannelRuntime → List (OperationId × UInt64) → Option ChannelRuntime
  | runtime, [] => some runtime
  | runtime, (operationId, sequence) :: l =>
    (Turn.admitOpSeqIn runtime operationId sequence).bind (admitAll · l)

theorem ofNat_inj {n m : ℕ} (hn : n < 2 ^ 64) (hm : m < 2 ^ 64) :
    UInt64.ofNat n = UInt64.ofNat m ↔ n = m := by
  refine ⟨fun h => ?_, fun h => by rw [h]⟩
  have htoNat := congrArg UInt64.toNat h
  rwa [UInt64.toNat_ofNat', UInt64.toNat_ofNat', Nat.mod_eq_of_lt hn, Nat.mod_eq_of_lt hm] at htoNat

theorem map_ofNat_inj {l l' : List ℕ} (hl : ∀ n ∈ l, n < 2 ^ 64) (hl' : ∀ n ∈ l', n < 2 ^ 64) :
    l.map UInt64.ofNat = l'.map UInt64.ofNat ↔ l = l' := by
  refine ⟨fun h => ?_, fun h => by rw [h]⟩
  have hback : ∀ l : List ℕ, (∀ n ∈ l, n < 2 ^ 64) →
      (l.map UInt64.ofNat).map UInt64.toNat = l := by
    intro l hl
    rw [List.map_map]
    refine (List.map_congr_left fun n hn => ?_).trans (List.map_id l)
    exact Nat.mod_eq_of_lt (hl n hn)
  rw [← hback l hl, ← hback l' hl', h]

/-- Below the end of the 64-bit range numbers and sequences are in order together. -/
theorem wireContiguous_iff {ns : List (OperationId × ℕ)} (hsmall : ∀ m ∈ ns, m.2 < 2 ^ 64)
    (hlen : ns.length ≤ 2 ^ 64) :
    WireContiguous (ns.map onWire) ↔ Numbering.Contiguous ns := by
  refine forall_congr' fun operationId => ?_
  have hfilter : ((ns.map onWire).filter fun m => m.1 = operationId) =
      (ns.filter fun m => m.1 = operationId).map onWire := by
    rw [List.filter_map]
    rfl
  have hle : (Numbering.ofKey operationId ns).length ≤ 2 ^ 64 := by
    rw [Numbering.ofKey, List.length_map]
    exact (List.length_filter_le _ _).trans hlen
  rw [hfilter, List.map_map, List.length_map, ← List.range_eq_range']
  have hleft : (ns.filter fun m => m.1 = operationId).map (Prod.snd ∘ onWire) =
      (Numbering.ofKey operationId ns).map UInt64.ofNat := by
    rw [Numbering.ofKey, List.map_map]
    rfl
  have hright : (ns.filter fun m => m.1 = operationId).length =
      (Numbering.ofKey operationId ns).length := by rw [Numbering.ofKey, List.length_map]
  rw [hleft, hright]
  refine map_ofNat_inj (fun n hn => ?_) fun n hn => (List.mem_range.mp hn).trans_le hle
  obtain ⟨m, hm, rfl⟩ := List.mem_map.mp hn
  exact hsmall m (List.mem_of_mem_filter hm)

/-- **The gateway admits what is contiguous**, as far as the 64-bit range goes. -/
theorem admitAll_isSome_iff {ns : List (OperationId × ℕ)} (runtime : Gateway.ChannelRuntime)
    (hsmall : ∀ m ∈ ns, m.2 < 2 ^ 64)
    (hstart : ∀ id, (runtime.opSeqIn.find? id).getD 0 + ns.length ≤ 2 ^ 64) :
    (Gateway.admitAll runtime (ns.map onWire)).isSome = true ↔
      Numbering.ContiguousFrom (fun id => (runtime.opSeqIn.find? id).getD 0) ns := by
  induction ns generalizing runtime with
  | nil => simp [Gateway.admitAll]
  | cons m ns ih =>
    obtain ⟨operationId, n⟩ := m
    have hn : n < 2 ^ 64 := hsmall _ List.mem_cons_self
    have hentry := hstart operationId
    rw [List.length_cons] at hentry
    rw [List.map_cons, Numbering.contiguousFrom_cons]
    have hiff := ofNat_inj hn (m := (runtime.opSeqIn.find? operationId).getD 0) (by omega)
    have hcons : Gateway.admitAll runtime (onWire (operationId, n) :: ns.map onWire) =
        (Gateway.Turn.admitOpSeqIn runtime operationId (UInt64.ofNat n)).bind
          (Gateway.admitAll · (ns.map onWire)) := rfl
    rw [hcons, Gateway.Turn.admitOpSeqIn]
    by_cases heq : n = (runtime.opSeqIn.find? operationId).getD 0
    swap
    · rw [if_pos (mt hiff.mp heq)]
      simp [heq]
    rw [if_neg (not_not_intro (hiff.mpr heq)), Option.bind_some, and_iff_right heq]
    refine (ih _ (fun m hm => hsmall m (List.mem_cons_of_mem _ hm)) fun id => ?_).trans ?_
    · have hid := hstart id
      rw [List.length_cons] at hid
      simp only [Table.find?_set]
      split
      · next h =>
        rw [Option.getD_some]
        omega
      · omega
    · refine iff_of_eq (congrArg (Numbering.ContiguousFrom · ns) ?_)
      funext id
      by_cases hid : id = operationId
      · subst hid
        simp
      · simp [Table.find?_set, hid]

/-- **The engine's sequences are the ones the gateway expects exactly when one operation at
most is sent on the channel**, and no attempt is lost before it. -/
theorem sequences_contiguous_iff (lib : Library) (wasm32 : Bool) (channelId : UInt32)
    (e e' : ClientEngine) (kind : OperationKind) (ops : ActiveOperations)
    (ocs : List OperationCommand) (out : List (List UInt8)) (runtime : Gateway.ChannelRuntime)
    (h : Streaming e channelId kind ops) (hfresh : ops.nextSeq = 0)
    (hruntime : runtime.opSeqIn = ∅) (hrun : StreamRun lib wasm32 channelId e ocs out e')
    (hlen : ocs.length ≤ 2 ^ 64) :
    (WireContiguous (out.filterMap operationSequence) ∧
        (Gateway.admitAll runtime (out.filterMap operationSequence)).isSome = true) ↔
      attempts lib kind ops.typeName ocs = [] ∨
        Numbering.OneKeyFirst (attempts lib kind ops.typeName ocs) := by
  have hattempts : (attempts lib kind ops.typeName ocs).length ≤ 2 ^ 64 :=
    (List.length_filterMap_le _ _).trans hlen
  set ns := Numbering.numbered 0 (attempts lib kind ops.typeName ocs) with hns
  have hsmall : ∀ m ∈ ns, m.2 < 2 ^ 64 := by
    intro m hm
    have := Numbering.lt_of_mem_numbered hm
    omega
  have hcount : ns.length ≤ 2 ^ 64 := (Numbering.length_numbered_le 0 _).trans hattempts
  rw [hrun.sequences h, hfresh, ← hns, wireContiguous_iff hsmall hcount,
    admitAll_isSome_iff runtime hsmall (fun id => by simpa [hruntime] using hcount)]
  have hstart : (fun id => (runtime.opSeqIn.find? id).getD 0) = fun _ : OperationId => 0 := by
    funext id
    simp [hruntime]
  rw [hstart]
  change Numbering.Contiguous ns ∧ Numbering.Contiguous ns ↔ _
  rw [and_self, hns, Numbering.contiguous_numbered_iff]

/-! ### Two calls on one channel -/

namespace Pair

open Gateway

/-- The settings of a service client on channel 1. -/
def callerOptions : EndpointOptions := ⟨zeroCorrelation, 1, "/name", "pkg/Type", 0, true⟩

/-- Whether channel 1 is a service client on both sides that has sent nothing yet. -/
def isFresh (p : Pair) : Bool :=
  p.engine.session.phase == .ready && p.engine.session.inner.role == .client &&
    p.engine.session.inner.view.channel 1 == some (.active, .serviceClient) &&
    !p.engine.closed &&
    (p.engine.operations 1).any (fun ops => ops.nextSeq == 0 && ops.typeName == "pkg/Type") &&
    (p.conn.channels.find? 1).any fun runtime => runtime.opSeqIn.entries.isEmpty

/-- A stream on which nothing has been sent. -/
structure FreshStream (p : Pair) (ops : ActiveOperations) (runtime : ChannelRuntime) : Prop where
  streaming : Streaming p.engine 1 .serviceClient ops
  nextSeq : ops.nextSeq = 0
  typeName : ops.typeName = "pkg/Type"
  channel : p.conn.channels.find? 1 = some runtime
  opSeqIn : runtime.opSeqIn = ∅

theorem freshStream_of_isFresh {p : Pair} (h : isFresh p = true) :
    ∃ ops runtime, FreshStream p ops runtime := by
  simp only [isFresh, Bool.and_eq_true, beq_iff_eq, Bool.not_eq_true', Option.any_eq_true,
    List.isEmpty_iff] at h
  obtain ⟨⟨⟨⟨⟨hready, hrole⟩, hactive⟩, hopen⟩, ops, htable, hseq, htype⟩, runtime, hruntime,
    hempty⟩ := h
  exact ⟨ops, runtime,
    { streaming := ⟨⟨hready, hrole, hactive⟩, hopen, by decide, htable⟩
      nextSeq := hseq
      typeName := htype
      channel := hruntime
      opSeqIn := AList.ext hempty }⟩

/-- A client reaches a stream on which nothing has been sent. -/
theorem exists_freshStream :
    ∃ p ops runtime, Reachable sampleSetup p ∧ FreshStream p ops runtime := by
  obtain ⟨p, hreach, hcheck⟩ := reachable_of_check
    (handshake ++ command (.openService callerOptions) 1) isFresh (by decide +kernel)
  obtain ⟨ops, runtime, hfresh⟩ := freshStream_of_isFresh hcheck
  exact ⟨p, ops, runtime, hreach, hfresh⟩

/-- A call on channel 1. -/
def call (b : UInt8) : AppCommand := .callService 1 (sampleOpid b) [1, 2, 3]

/-- The run of a list of calls. -/
def callRun (e : ClientEngine) : List UInt8 → ClientEngine × List (List UInt8)
  | [] => (e, [])
  | b :: bs =>
    let r := e.poll noLibrary false [.command (call b)]
    let rest := callRun r.1 bs
    (rest.1, r.2.outbound.map (·.bytes) ++ rest.2)

/-- What a call sends. -/
def callCommand (b : UInt8) : OperationCommand :=
  ⟨1, opcodeServiceRequest, sampleOpid b, some .request, [1, 2, 3], true⟩

theorem streamRun_callRun (e : ClientEngine) (bs : List UInt8) :
    StreamRun noLibrary false 1 e (bs.map callCommand) (callRun e bs).2 (callRun e bs).1 := by
  induction bs generalizing e with
  | nil => exact .nil e
  | cons b bs ih =>
    exact .send (show (call b).operation = some (callCommand b) from rfl) rfl (ih _)

/-- The second of two calls with ids of their own has a sequence the gateway refuses. -/
theorem not_sequences_contiguous_of_twoCalls :
    ¬ ∀ p ops runtime ocs out e', Reachable sampleSetup p → FreshStream p ops runtime →
      StreamRun noLibrary false 1 p.engine ocs out e' →
      WireContiguous (out.filterMap operationSequence) ∧
        (admitAll runtime (out.filterMap operationSequence)).isSome = true := by
  intro h
  obtain ⟨p, ops, runtime, hreach, hfresh⟩ := exists_freshStream
  have hrun := streamRun_callRun p.engine [1, 2]
  have hsequences := hrun.sequences hfresh.streaming
  rw [hfresh.nextSeq, hfresh.typeName] at hsequences
  have hcontiguous := (h p ops runtime _ _ _ hreach hfresh hrun).1 (sampleOpid 2)
  rw [hsequences] at hcontiguous
  exact absurd hcontiguous (by decide +kernel)

/-- The gateway takes both frames of one operation. -/
theorem sequences_contiguous_of_oneId :
    ∃ p ops runtime, FreshStream p ops runtime ∧
      (admitAll runtime ((callRun p.engine [1, 1]).2.filterMap operationSequence)).isSome
        = true := by
  obtain ⟨p, ops, runtime, -, hfresh⟩ := exists_freshStream
  refine ⟨p, ops, runtime, hfresh, ?_⟩
  refine ((sequences_contiguous_iff noLibrary false 1 p.engine _ .serviceClient ops _ _ runtime
    hfresh.streaming hfresh.nextSeq hfresh.opSeqIn (streamRun_callRun p.engine [1, 1])
    (by decide)).mpr ?_).2
  rw [hfresh.typeName]
  exact .inr ⟨sampleOpid 1, 2, [], by decide +kernel, by simp⟩

end Pair
end Rclweb
