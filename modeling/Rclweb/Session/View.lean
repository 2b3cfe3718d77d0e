import Mathlib.Logic.Function.Basic
import Rclweb.Session.Session

/-!
# What two peers must agree on

The abstract session: phase, selected version, graph generation, and for every channel id
its state and operation kind.  Roles, correlations and effects are forgotten, and with them
every reason of a rejection; what remains is which messages are accepted and what they
change.

A message is classified once, from its contents and its sender alone, as an `Act`; the
abstract session steps by acts.  `View.step_classify` connects the two: a session accepts a
message exactly when its view accepts the act the message is classified as, and the views
stay in step.  No rejected message changes the session (`apply_error`).
-/

namespace Rclweb

open Rclweb.Frame Control Transition

/-- What a message does to one channel. -/
inductive ChannelAct where
  | opening (kind : OperationKind)
  | ready (success : Bool)
  | close
  /-- An operation-scope Error. -/
  | operationError
  /-- An Error of any other scope that names the channel. -/
  | error
  | data (sender : Role) (opcode : UInt8)
  deriving DecidableEq, Repr

/-- What a message does in the ready phase. -/
inductive ReadyAct where
  | refused
  | idle
  | graphSnapshot (generation : UInt64)
  | graphDelta (base generation : UInt64)
  | channel (id : UInt32) (act : ChannelAct)
  deriving DecidableEq, Repr

/-- **What a message does to the connection.** -/
inductive Act where
  | clientHello
  | serverHello (version : UInt8)
  | bootstrapError
  | authenticate
  | sessionReady
  /-- A control Error: fatal before the ready phase, and `inReady` in it. -/
  | error (inReady : ReadyAct)
  /-- A message the ready phase is required for. -/
  | ready (act : ReadyAct)
  deriving DecidableEq, Repr

/-- Whether an act is one a selected-version frame can be. -/
def Act.ofSelectedPlane : Act → Bool
  | .authenticate | .sessionReady | .error _ | .ready _ => true
  | _ => false

/-- State and operation kind of a channel that was opened. -/
abbrev ChannelView := ChannelState × OperationKind

/-- **The shared view of a connection.** -/
structure View where
  phase : SessionPhase
  version : Option UInt8
  graph : Option UInt64
  channel : UInt32 → Option ChannelView

namespace ChannelAct

/-- Whether an act needs the channel to be active. -/
def needsActive : ChannelAct → Bool
  | close | operationError | data _ _ => true
  | _ => false

/-- The channel after an act, when the act is accepted. -/
def step : ChannelAct → Option ChannelView → Option (Option ChannelView)
  | opening kind, none => some (some (.pending, kind))
  | opening _, some _ => none
  | ready success, some (.pending, kind) =>
    some (some (if success then .active else .failed, kind))
  | ready _, _ => none
  | close, some (.active, kind) => some (some (.closed, kind))
  | close, _ => none
  | operationError, some (.active, kind) => some (some (.active, kind))
  | operationError, _ => none
  | error, some (.pending, kind) => some (some (.failed, kind))
  | error, c => some c
  | data sender opcode, some (.active, kind) =>
    if kind.allowsOpcode opcode ∧ kind.opcodeSender opcode = some sender then
      some (some (.active, kind))
    else none
  | data _ _, _ => none

end ChannelAct

namespace View

def initial : View := ⟨.awaitClientHello, none, none, fun _ => none⟩

/-- Update one channel. -/
def setChannel (v : View) (id : UInt32) (c : Option ChannelView) : View :=
  { v with channel := Function.update v.channel id c }

/-- Writing back what a channel is changes nothing. -/
theorem setChannel_of_eq {v : View} {id : UInt32} {c : Option ChannelView}
    (h : v.channel id = c) : v.setChannel id c = v := by
  subst h
  simp [setChannel]

/-- The view after an act of the ready phase. -/
def readyStep (v : View) : ReadyAct → Option View
  | .refused => none
  | .idle => some v
  | .graphSnapshot generation => some { v with graph := some generation }
  | .graphDelta base generation =>
    if v.graph = some base ∧ generation = saturatingSucc base then
      some { v with graph := some generation }
    else none
  | .channel id act => (act.step (v.channel id)).map (v.setChannel id)

/-- **The view after an act**, when the act is accepted. -/
def step (v : View) : Act → Option View
  | .clientHello =>
    if v.phase = .awaitClientHello then some { v with phase := .awaitServerHello } else none
  | .serverHello version =>
    if v.phase = .awaitServerHello then
      some { v with phase := .selectedAwaitAuthenticate, version := some version }
    else none
  | .bootstrapError =>
    if v.phase = .awaitServerHello then some { v with phase := .bootstrapFailed } else none
  | .authenticate =>
    if v.phase = .selectedAwaitAuthenticate then
      some { v with phase := .selectedAwaitSessionReady }
    else none
  | .sessionReady =>
    if v.phase = .selectedAwaitSessionReady then some { v with phase := .ready } else none
  | .error inReady =>
    if v.phase = .selectedAwaitAuthenticate ∨ v.phase = .selectedAwaitSessionReady then
      some { v with phase := .failed }
    else if v.phase = .ready then v.readyStep inReady
    else none
  | .ready act => if v.phase = .ready then v.readyStep act else none

end View

/-! ## Classification -/

namespace Act

/-- An operation-scope Error must name a channel. -/
def ofOperationError : Option UInt32 → ReadyAct
  | some id => .channel id .operationError
  | none => .refused

/-- An Error of another scope may name one. -/
def ofScopedError : Option UInt32 → ReadyAct
  | some id => .channel id .error
  | none => .idle

def ofError (msg : ControlMessage) : ReadyAct :=
  let channelId := (fieldUint msg fieldChannelId).map UInt64.toUInt32
  if (fieldUint msg fieldErrorScope).getD 0 = 2 then ofOperationError channelId
  else ofScopedError channelId

def ofOpenChannel (msg : ControlMessage) : ReadyAct :=
  match fieldUint msg fieldChannelId, fieldUint msg fieldOperationKind with
  | some raw, some opRaw =>
    if raw.toUInt32 = 0 ∨ opRaw > 255 then .refused
    else
      match OperationKind.fromU8 opRaw.toUInt8 with
      | some kind => .channel raw.toUInt32 (.opening kind)
      | none => .refused
  | _, _ => .refused

def ofChannelReady (msg : ControlMessage) : ReadyAct :=
  match fieldUint msg fieldChannelId, fieldUint msg fieldChannelResult with
  | some raw, some resultRaw =>
    if resultRaw > 255 then .refused
    else
      match ChannelResult.fromU8 resultRaw.toUInt8 with
      | some result => .channel raw.toUInt32 (.ready result.isSuccess)
      | none => .refused
  | _, _ => .refused

def ofCloseChannel (msg : ControlMessage) : ReadyAct :=
  match fieldUint msg fieldChannelId with
  | some raw => .channel raw.toUInt32 .close
  | none => .refused

def ofGraphSnapshot (msg : ControlMessage) : ReadyAct :=
  match fieldUint msg fieldGraphGeneration with
  | some generation => .graphSnapshot generation
  | none => .refused

def ofGraphDelta (msg : ControlMessage) : ReadyAct :=
  match fieldUint msg fieldBaseGeneration, fieldUint msg fieldGraphGeneration with
  | some base, some generation => .graphDelta base generation
  | _, _ => .refused

def ofControl (sender : Role) (msg : ControlMessage) : Act :=
  if wrongSender msg.kind sender then .ready .refused
  else if msg.kind = kindAuthenticate then .authenticate
  else if msg.kind = kindSessionReady then .sessionReady
  else if msg.kind = kindError then .error (ofError msg)
  else if msg.kind = kindOpenChannel then .ready (ofOpenChannel msg)
  else if msg.kind = kindChannelReady then .ready (ofChannelReady msg)
  else if msg.kind = kindCloseChannel then .ready (ofCloseChannel msg)
  else if msg.kind = kindHeartbeat then .ready .idle
  else if msg.kind = kindGraphSnapshot then .ready (ofGraphSnapshot msg)
  else if msg.kind = kindGraphDelta then .ready (ofGraphDelta msg)
  else if msg.kind = kindSchemaRequest ∨ msg.kind = kindSchemaResponse ∨
      msg.kind = kindSchemaAdvertise ∨ msg.kind = kindClockSync then .ready .idle
  else .ready .refused

/-- A service or action frame, whose operation stream has to be well formed. -/
def ofStream (sender : Role) (frame : DecodedFrame) : Act :=
  match checkOperationStream frame with
  | .ok () => .ready (.channel frame.channelId (.data sender frame.opcode))
  | .error _ => .ready .refused

def ofFrame (sender : Role) (frame : DecodedFrame) : Act :=
  if frame.opcode = opcodeControlCbor then
    match frame.payload with
    | .control msg => ofControl sender msg
    | .application _ => .ready .refused
  else if frame.opcode = opcodeRosSample then
    .ready (.channel frame.channelId (.data sender opcodeRosSample))
  else if isServiceOrActionOpcode frame.opcode then ofStream sender frame
  else .ready .refused

def ofBootstrap (sender : Role) (record : BootstrapRecord) : Act :=
  match record, sender with
  | .clientHello _, .client => .clientHello
  | .serverHello hello, .server => .serverHello hello.selectedWireVersion
  | .bootstrapError _, .server => .bootstrapError
  | _, _ => .ready .refused

/-- **What a message from `sender` does to the connection.** -/
def classify (sender : Role) : Message → Act
  | .bootstrap record => ofBootstrap sender record
  | .frame frame => ofFrame sender frame

end Act

namespace SessionState

/-- The view of a channel entry. -/
def entryView (e : ChannelEntry) : ChannelView := (e.state, e.operationKind)

/-- **The shared view of a session state.** -/
def view (s : SessionState) : View :=
  ⟨s.phase, s.selectedWireVersion, s.graphGeneration,
    fun id => (s.channels.get id).map entryView⟩

end SessionState
end Rclweb
