import Rclweb.Protocol.Bootstrap
import Rclweb.Session.Channel

/-!
# Session transitions

How a bootstrap record or a decoded frame changes the connection state, given who sent
it.  The same two functions serve a peer for what it receives and for what it sends, so
each of them takes the sender as an argument and none reads the role of the state.

Every function returns the state next to its result, also when it fails: what a rejected
message leaves behind is then a statement about these functions and not an assumption.
-/

namespace Rclweb

open Rclweb.Frame Control

/-- Control field keys. -/
def fieldCorrelationId : UInt64 := 2
def fieldChannelId : UInt64 := 29
def fieldOperationKind : UInt64 := 30
def fieldChannelResult : UInt64 := 33
def fieldGraphGeneration : UInt64 := 14
def fieldBaseGeneration : UInt64 := 24
def fieldErrorScope : UInt64 := 49

/-- Host-facing effects of a successful transition. -/
structure SessionEffects where
  enteredSelectedPlane : Bool := false
  enteredReady : Bool := false
  bootstrapFailed : Bool := false
  sessionError : Bool := false
  channelOpened : Option UInt32 := none
  channelFailed : Option UInt32 := none
  channelClosed : Option UInt32 := none
  heartbeat : Bool := false
  authCorrelationMatched : Bool := false
  channelCorrelationMatched : Bool := false
  graphSnapshot : Option UInt64 := none
  graphDelta : Option UInt64 := none
  operationCancelled : Option UInt32 := none
  deriving DecidableEq, Repr, Inhabited

/-- **The session state of one peer.** -/
structure SessionState where
  role : Role
  phase : SessionPhase
  channels : ChannelTable
  pendingAuthCorrelation : Option (List UInt8)
  selectedWireVersion : Option UInt8
  graphGeneration : Option UInt64

def SessionState.new (role : Role) : SessionState :=
  ⟨role, .awaitClientHello, .empty, none, none, none⟩

/-- The result of a transition, and the state after it. -/
abbrev Outcome := Except ProtocolError SessionEffects × SessionState

namespace Transition

/-- Refuse, leaving the state as given. -/
def reject (state : SessionState) (error : ProtocolError) : Outcome := (.error error, state)

/-- Accept with the given effects and state. -/
def accept (state : SessionState) (effects : SessionEffects) : Outcome := (.ok effects, state)

/-- The first OPERATION_ID extension, when its value has 16 bytes. -/
def frameOperationId (frame : DecodedFrame) : Option (List UInt8) :=
  match frame.extensions.find? (·.typeId == Extension.operationIdExtensionType) with
  | some ext => if ext.value.length ≠ 16 then none else some ext.value
  | none => none

def isServiceOrActionOpcode (opcode : UInt8) : Bool :=
  opcode == opcodeServiceRequest || opcode == opcodeServiceResponse ||
    opcode == opcodeActionGoal || opcode == opcodeActionFeedback ||
    opcode == opcodeActionResult || opcode == opcodeActionStatus ||
    opcode == opcodeActionCancel

def operationIdRequired (opcode : UInt8) : Bool := isServiceOrActionOpcode opcode

/-- The all-zero id names the channel-wide status stream. -/
def operationIdMayBeZero (opcode : UInt8) : Bool := opcode == opcodeActionStatus

def fieldUint (msg : ControlMessage) (key : UInt64) : Option UInt64 :=
  match msg.get key with
  | some (.unsigned v) => some v
  | some (.negative v) => if v ≥ 0 then some (UInt64.ofNat v.toNat) else none
  | _ => none

def fieldBytes (msg : ControlMessage) (key : UInt64) : Option (List UInt8) :=
  match msg.get key with
  | some (.bytes b) => some b
  | _ => none

def correlationVec (msg : ControlMessage) : List UInt8 :=
  (fieldBytes msg fieldCorrelationId).getD []

/-- An absent or empty correlation matches nothing. -/
def correlationsMatch (pending : Option (List UInt8)) (response : List UInt8) : Bool :=
  match pending with
  | some p => !p.isEmpty && !response.isEmpty && p == response
  | none => false

def isReadyRequiredKind (kind : UInt8) : Bool :=
  kind == kindGraphSnapshot || kind == kindGraphDelta || kind == kindSchemaRequest ||
    kind == kindSchemaResponse || kind == kindSchemaAdvertise || kind == kindOpenChannel ||
    kind == kindChannelReady || kind == kindCloseChannel || kind == kindClockSync ||
    kind == kindHeartbeat

/-- The absolute wire sender of a control kind; `none` is either direction. -/
def controlSender (kind : UInt8) : Option Role :=
  if kind = kindAuthenticate ∨ kind = kindSessionResume ∨ kind = kindOpenChannel then
    some .client
  else if kind = kindSessionReady ∨ kind = kindSessionResumeResult ∨ kind = kindChannelReady ∨
      kind = kindGraphSnapshot ∨ kind = kindGraphDelta ∨ kind = kindSchemaAdvertise ∨
      kind = kindSchemaResponse then some .server
  else if kind = kindSchemaRequest then some .client
  else none

/-- Whether a control message may not come from this sender. -/
def wrongSender (kind : UInt8) (sender : Role) : Bool :=
  (controlSender kind).any (· != sender)

/-! ## Bootstrap records -/

def applyBootstrap (state : SessionState) (record : BootstrapRecord) (sender : Role) : Outcome :=
  if state.phase.isTerminal then
    reject state (.protocolViolationBootstrap "session_terminal" 0 9)
  else if state.phase.inSelectedPlane then
    reject state (.protocolViolationBootstrap "bootstrap_after_selected" 0 9)
  else
    match record with
    | .clientHello _ =>
      if sender ≠ .client then
        reject state (.protocolViolationBootstrap "wrong_bootstrap_direction" 0 9)
      else if state.phase ≠ .awaitClientHello then
        reject state (.protocolViolationBootstrap "duplicate_or_late_client_hello" 0 9)
      else accept { state with phase := .awaitServerHello } {}
    | .serverHello hello =>
      if sender ≠ .server then
        reject state (.protocolViolationBootstrap "wrong_bootstrap_direction" 0 9)
      else if state.phase ≠ .awaitServerHello then
        reject state (.protocolViolationBootstrap "server_hello_out_of_order" 0 9)
      else
        accept
          { state with
            selectedWireVersion := some hello.selectedWireVersion
            phase := .selectedAwaitAuthenticate }
          { enteredSelectedPlane := true }
    | .bootstrapError _ =>
      if sender ≠ .server then
        reject state (.protocolViolationBootstrap "wrong_bootstrap_direction" 0 9)
      else if state.phase ≠ .awaitServerHello then
        reject state (.protocolViolationBootstrap "bootstrap_error_out_of_order" 0 9)
      else accept { state with phase := .bootstrapFailed } { bootstrapFailed := true }

/-! ## Control messages -/

def applyGraphSnapshot (state : SessionState) (msg : ControlMessage) : Outcome :=
  match fieldUint msg fieldGraphGeneration with
  | none => reject state (.protocolViolation "graph_snapshot_missing_generation" 0 25)
  | some generation =>
    accept { state with graphGeneration := some generation }
      { graphSnapshot := some generation }

/-- `u64::saturating_add(1)`. -/
def saturatingSucc (n : UInt64) : UInt64 := if n = UInt64.ofNat uint64Max then n else n + 1

def applyGraphDelta (state : SessionState) (msg : ControlMessage) : Outcome :=
  match fieldUint msg fieldBaseGeneration with
  | none => reject state (.protocolViolation "graph_delta_missing_base_generation" 0 25)
  | some base =>
    match fieldUint msg fieldGraphGeneration with
    | none => reject state (.protocolViolation "graph_delta_missing_generation" 0 25)
    | some generation =>
      match state.graphGeneration with
      | none => reject state (.protocolViolation "graph_delta_without_snapshot" 0 25)
      | some current =>
        if base ≠ current then
          reject state (.protocolViolation "graph_delta_base_mismatch" 0 25)
        else if generation ≠ saturatingSucc base then
          reject state (.protocolViolation "graph_delta_generation_step" 0 25)
        else
          accept { state with graphGeneration := some generation }
            { graphDelta := some generation }

def applyAuthenticate (state : SessionState) (msg : ControlMessage) : Outcome :=
  match state.phase with
  | .selectedAwaitAuthenticate =>
    accept
      { state with
        pendingAuthCorrelation := some (correlationVec msg)
        phase := .selectedAwaitSessionReady } {}
  | .selectedAwaitSessionReady | .ready =>
    reject state (.protocolViolation "authenticate_out_of_order" 0 25)
  | _ => reject state (.protocolViolation "authenticate_bad_phase" 0 25)

def applySessionReady (state : SessionState) (msg : ControlMessage) : Outcome :=
  if state.phase ≠ .selectedAwaitSessionReady then
    reject state (.protocolViolation "session_ready_out_of_order" 0 25)
  else
    accept { state with pendingAuthCorrelation := none, phase := .ready }
      { authCorrelationMatched :=
          correlationsMatch state.pendingAuthCorrelation (correlationVec msg)
        enteredReady := true }

/-- An operation-scope Error in the ready phase: the session goes on. -/
def applyOperationError (state : SessionState) (channelId : Option UInt32) : Outcome :=
  match channelId with
  | none => reject state (.protocolViolation "operation_error_missing_channel" 0 25)
  | some id =>
    if state.channels.state id ≠ .active then
      reject state (.protocolViolation "operation_error_inactive_channel" 0 25)
    else accept state { operationCancelled := some id }

/-- An Error of another scope in the ready phase: it fails a pending channel it names, and
is a session error otherwise. -/
def applyReadyError (state : SessionState) (msg : ControlMessage) (channelId : Option UInt32) :
    Outcome :=
  match channelId with
  | some id =>
    if state.channels.state id = .pending then
      accept { state with channels := state.channels.setState id .failed }
        { channelCorrelationMatched :=
            (state.channels.get id).any fun entry =>
              correlationsMatch (some entry.openCorrelation) (correlationVec msg)
          channelFailed := some id }
    else accept state { sessionError := true }
  | none => accept state { sessionError := true }

def applyError (state : SessionState) (msg : ControlMessage) : Outcome :=
  if state.phase = .selectedAwaitSessionReady then
    accept { state with pendingAuthCorrelation := none, phase := .failed }
      { authCorrelationMatched :=
          correlationsMatch state.pendingAuthCorrelation (correlationVec msg)
        sessionError := true }
  else if state.phase.isReady then
    let channelId := (fieldUint msg fieldChannelId).map UInt64.toUInt32
    let scope := (fieldUint msg fieldErrorScope).getD 0
    if scope = 2 then applyOperationError state channelId
    else applyReadyError state msg channelId
  else if state.phase = .selectedAwaitAuthenticate then
    accept { state with phase := .failed } { sessionError := true }
  else reject state (.protocolViolation "error_bad_phase" 0 25)

def applyOpenChannel (state : SessionState) (msg : ControlMessage) : Outcome :=
  match fieldUint msg fieldChannelId with
  | none => reject state (.protocolViolation "open_channel_missing_channel_id" 0 25)
  | some raw =>
    let channelId := raw.toUInt32
    if channelId = 0 then reject state (.protocolViolation "open_channel_id_zero" 0 25)
    else if state.channels.contains channelId then
      reject state (.protocolViolation "channel_id_reuse" 0 25)
    else
      match fieldUint msg fieldOperationKind with
      | none => reject state (.protocolViolation "open_channel_missing_operation_kind" 0 25)
      | some opRaw =>
        if opRaw > 255 then
          reject state (.protocolViolation "open_channel_bad_operation_kind" 0 25)
        else
          match OperationKind.fromU8 opRaw.toUInt8 with
          | none => reject state (.protocolViolation "unsupported_operation_kind" 0 25)
          | some operationKind =>
            accept
              { state with
                channels :=
                  state.channels.insertPending channelId operationKind (correlationVec msg) }
              { channelOpened := some channelId }

def applyChannelReady (state : SessionState) (msg : ControlMessage) : Outcome :=
  match fieldUint msg fieldChannelId with
  | none => reject state (.protocolViolation "channel_ready_missing_channel_id" 0 25)
  | some raw =>
    let channelId := raw.toUInt32
    match state.channels.state channelId with
    | .unused => reject state (.protocolViolation "channel_ready_without_open" 0 25)
    | .pending =>
      match fieldUint msg fieldChannelResult with
      | none => reject state (.protocolViolation "channel_ready_missing_result" 0 25)
      | some resultRaw =>
        if resultRaw > 255 then
          reject state (.protocolViolation "channel_ready_bad_result" 0 25)
        else
          match ChannelResult.fromU8 resultRaw.toUInt8 with
          | none => reject state (.protocolViolation "channel_ready_bad_result" 0 25)
          | some result =>
            let matched := (state.channels.get channelId).any fun entry =>
              correlationsMatch (some entry.openCorrelation) (correlationVec msg)
            if result.isSuccess then
              accept { state with channels := state.channels.setState channelId .active }
                { channelCorrelationMatched := matched }
            else
              accept { state with channels := state.channels.setState channelId .failed }
                { channelCorrelationMatched := matched, channelFailed := some channelId }
    | _ => reject state (.protocolViolation "channel_ready_bad_state" 0 25)

def applyCloseChannel (state : SessionState) (msg : ControlMessage) : Outcome :=
  match fieldUint msg fieldChannelId with
  | none => reject state (.protocolViolation "close_channel_missing_channel_id" 0 25)
  | some raw =>
    let channelId := raw.toUInt32
    match state.channels.state channelId with
    | .active =>
      accept { state with channels := state.channels.setState channelId .closed }
        { channelClosed := some channelId }
    | .pending => reject state (.protocolViolation "close_channel_while_pending" 0 25)
    | .failed | .closed => reject state (.protocolViolation "close_channel_terminal" 0 25)
    | .unused => reject state (.protocolViolation "close_channel_unknown" 0 25)

def applyControl (state : SessionState) (msg : ControlMessage) (sender : Role) : Outcome :=
  if wrongSender msg.kind sender then
    reject state (.protocolViolation "wrong_control_direction" 0 25)
  else if msg.kind = kindSessionResume ∨ msg.kind = kindSessionResumeResult then
    reject state (.protocolViolation "session_resume_not_enabled" 0 25)
  else if !state.phase.isReady && isReadyRequiredKind msg.kind then
    reject state (.sessionNotReady "control_before_ready" 0)
  else if msg.kind = kindAuthenticate then applyAuthenticate state msg
  else if msg.kind = kindSessionReady then applySessionReady state msg
  else if msg.kind = kindError then applyError state msg
  else if msg.kind = kindOpenChannel then applyOpenChannel state msg
  else if msg.kind = kindChannelReady then applyChannelReady state msg
  else if msg.kind = kindCloseChannel then applyCloseChannel state msg
  else if msg.kind = kindHeartbeat then accept state { heartbeat := true }
  else if msg.kind = kindGraphSnapshot then applyGraphSnapshot state msg
  else if msg.kind = kindGraphDelta then applyGraphDelta state msg
  else if msg.kind = kindSchemaRequest ∨ msg.kind = kindSchemaResponse ∨
      msg.kind = kindSchemaAdvertise ∨ msg.kind = kindClockSync then
    accept state {}
  else reject state (.protocolViolation "unknown_control_kind" 0 25)

/-! ## Data frames -/

/-- Data needs an active channel. -/
def applyDataChannelGates (state : SessionState) (channelId : UInt32) :
    Except ProtocolError Unit :=
  match state.channels.state channelId with
  | .pending => .error (.protocolViolation "data_on_pending_channel" 0 19)
  | .failed | .closed | .unused => .error (.unknownChannel "data_on_inactive_channel" 0)
  | .active => .ok ()

/-- The operation kind of a channel the gates have let through. -/
def activeKind (state : SessionState) (channelId : UInt32) : OperationKind :=
  ((state.channels.get channelId).map (·.operationKind)).getD .topicSubscribe

def applyRosSample (state : SessionState) (frame : DecodedFrame) (sender : Role) : Outcome :=
  if !state.phase.isReady then reject state (.sessionNotReady "data_before_ready" 0)
  else
    match applyDataChannelGates state frame.channelId with
    | .error e => reject state e
    | .ok () =>
      let kind := activeKind state frame.channelId
      if !kind.allowsOpcode opcodeRosSample || !kind.allowsRosSampleFrom sender then
        reject state (.protocolViolation "ros_sample_wrong_direction" 0 22)
      else accept state {}

/-- Whether an opcode must carry the reliable flag. -/
def reliableRequired (opcode : UInt8) : Bool :=
  opcode == opcodeServiceRequest || opcode == opcodeServiceResponse ||
    opcode == opcodeActionGoal || opcode == opcodeActionCancel || opcode == opcodeActionResult

/-- The operation id and the reliable flag of a service or action frame. -/
def checkOperationStream (frame : DecodedFrame) : Except ProtocolError Unit :=
  let reliable : Except ProtocolError Unit :=
    if reliableRequired frame.opcode && frame.flags &&& flagRosReliable == 0 then
      .error (.protocolViolation "service_action_requires_reliable" 0 25)
    else .ok ()
  if operationIdRequired frame.opcode then
    match frameOperationId frame with
    | none => .error (.protocolViolation "missing_operation_id" 0 25)
    | some opid =>
      if opid = List.replicate 16 0 ∧ !operationIdMayBeZero frame.opcode then
        .error (.protocolViolation "zero_operation_id" 0 25)
      else reliable
  else reliable

def applyServiceActionFrame (state : SessionState) (frame : DecodedFrame) (sender : Role) :
    Outcome :=
  if !state.phase.isReady then reject state (.sessionNotReady "data_before_ready" 0)
  else
    match applyDataChannelGates state frame.channelId with
    | .error e => reject state e
    | .ok () =>
      let kind := activeKind state frame.channelId
      if !kind.allowsOpcode frame.opcode then
        reject state (.protocolViolation "opcode_operation_kind_mismatch" 0 22)
      else if kind.opcodeSender frame.opcode ≠ some sender then
        reject state (.protocolViolation "service_action_wrong_direction" 0 22)
      else
        match checkOperationStream frame with
        | .error e => reject state e
        | .ok () => accept state {}

/-- Media, recording and asset frames are gated and then refused. -/
def applyParkedFrame (state : SessionState) (frame : DecodedFrame) : Outcome :=
  if !state.phase.isReady then reject state (.sessionNotReady "data_before_ready" 0)
  else
    match applyDataChannelGates state frame.channelId with
    | .error e => reject state e
    | .ok () => reject state (.protocolViolation "unsupported_operation_opcode" 0 22)

/-- **Apply a decoded frame** sent by `sender`. -/
def applyFrame (state : SessionState) (frame : DecodedFrame) (sender : Role) : Outcome :=
  if state.phase.isTerminal then reject state (.protocolViolation "session_terminal" 0 25)
  else if !state.phase.inSelectedPlane then
    reject state (.protocolViolation "selected_frame_before_plane" 0 25)
  else if frame.opcode = opcodeControlCbor then
    match frame.payload with
    | .control msg => applyControl state msg sender
    | .application _ =>
      reject state (.invalidControl "control_opcode_without_control_payload" 0 16)
  else if frame.opcode = opcodeRosSample then applyRosSample state frame sender
  else if isServiceOrActionOpcode frame.opcode then applyServiceActionFrame state frame sender
  else applyParkedFrame state frame

/-! ## Heartbeats -/

/-- **A heartbeat changes nothing** on a ready connection, whoever sends it. -/
theorem applyFrame_heartbeat {state : SessionState} {frame : DecodedFrame} {msg : ControlMessage}
    (hready : state.phase = .ready) (hopcode : frame.opcode = opcodeControlCbor)
    (hpayload : frame.payload = .control msg) (hkind : msg.kind = kindHeartbeat) (sender : Role) :
    applyFrame state frame sender = accept state { heartbeat := true } := by
  have hsender : wrongSender kindHeartbeat sender = false := by cases sender <;> decide
  have happly : applyControl state msg sender = accept state { heartbeat := true } := by
    unfold applyControl
    rw [hkind, hsender]
    simp [hready, kindHeartbeat, kindSessionResume, kindSessionResumeResult, kindAuthenticate,
      kindSessionReady, kindError, kindOpenChannel, kindChannelReady, kindCloseChannel]
  unfold applyFrame
  simp [hready, hopcode, hpayload, happly, SessionPhase.isTerminal, SessionPhase.inSelectedPlane]

end Transition
end Rclweb
