import Rclweb.Session.Transition

/-!
# The session machine of one peer

`ingest…` applies what the peer at the other end sent, `recordSend…` what this peer sends.
Both are the same transition with the other sender, which is what lets two peers keep one
view of the connection.
-/

namespace Rclweb

/-- A message of the wire, before or after the version is selected. -/
inductive Message where
  | bootstrap (record : BootstrapRecord)
  | frame (frame : DecodedFrame)

/-- **The session machine of one peer.** -/
structure Session where
  inner : SessionState

namespace Session

open Transition

/-- Both roles start waiting for the client's hello. -/
def new (role : Role) : Session := ⟨.new role⟩

def phase (s : Session) : SessionPhase := s.inner.phase

def channelState (s : Session) (id : UInt32) : ChannelState := s.inner.channels.state id

def selectedWireVersion (s : Session) : Option UInt8 := s.inner.selectedWireVersion

def graphGeneration (s : Session) : Option UInt64 := s.inner.graphGeneration

/-- The operation kind recorded for a channel id. -/
def operationKind (s : Session) (id : UInt32) : Option OperationKind :=
  (s.inner.channels.get id).map (·.operationKind)

/-- The result of a session call, and the session after it. -/
abbrev Result := Except ProtocolError SessionEffects × Session

def ofOutcome (o : Outcome) : Result := (o.1, ⟨o.2⟩)

def ingestBootstrap (s : Session) (record : BootstrapRecord) : Result :=
  ofOutcome (applyBootstrap s.inner record s.inner.role.peer)

def recordSendBootstrap (s : Session) (record : BootstrapRecord) : Result :=
  ofOutcome (applyBootstrap s.inner record s.inner.role)

def ingestFrame (s : Session) (frame : DecodedFrame) : Result :=
  ofOutcome (applyFrame s.inner frame s.inner.role.peer)

def recordSendFrame (s : Session) (frame : DecodedFrame) : Result :=
  ofOutcome (applyFrame s.inner frame s.inner.role)

/-- Ingest a message of either plane. -/
def ingest (s : Session) : Message → Result
  | .bootstrap record => s.ingestBootstrap record
  | .frame frame => s.ingestFrame frame

/-- Record a message of either plane as sent. -/
def recordSend (s : Session) : Message → Result
  | .bootstrap record => s.recordSendBootstrap record
  | .frame frame => s.recordSendFrame frame

/-- The transition both directions are. -/
def apply (state : SessionState) (message : Message) (sender : Role) : Outcome :=
  match message with
  | .bootstrap record => applyBootstrap state record sender
  | .frame frame => applyFrame state frame sender

theorem ingest_eq (s : Session) (m : Message) :
    s.ingest m = ofOutcome (apply s.inner m s.inner.role.peer) := by
  cases m <;> rfl

theorem recordSend_eq (s : Session) (m : Message) :
    s.recordSend m = ofOutcome (apply s.inner m s.inner.role) := by
  cases m <;> rfl

/-- A heartbeat is taken and sent on a ready connection, and changes nothing. -/
theorem ingestFrame_heartbeat {s : Session} {frame : DecodedFrame} {msg : ControlMessage}
    (hready : s.phase = .ready) (hopcode : frame.opcode = Frame.opcodeControlCbor)
    (hpayload : frame.payload = .control msg) (hkind : msg.kind = Control.kindHeartbeat) :
    s.ingestFrame frame = (.ok { heartbeat := true }, s) := by
  rw [ingestFrame, applyFrame_heartbeat hready hopcode hpayload hkind]
  rfl

theorem recordSendFrame_heartbeat {s : Session} {frame : DecodedFrame} {msg : ControlMessage}
    (hready : s.phase = .ready) (hopcode : frame.opcode = Frame.opcodeControlCbor)
    (hpayload : frame.payload = .control msg) (hkind : msg.kind = Control.kindHeartbeat) :
    s.recordSendFrame frame = (.ok { heartbeat := true }, s) := by
  rw [recordSendFrame, applyFrame_heartbeat hready hopcode hpayload hkind]
  rfl

end Session
end Rclweb
