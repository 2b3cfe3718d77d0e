import Rclweb.Library.Table
import Rclweb.Protocol.Frame

/-!
# Channels

Roles, session phases, operation kinds, and the table of application channels.  A channel
id has an entry from its OpenChannel on, and keeps it: there is no removal.
-/

namespace Rclweb

open Rclweb.Frame

/-- Which peer an instance of the state machine represents. -/
inductive Role where
  | client
  | server
  deriving DecidableEq, Repr, Inhabited

/-- The remote peer. -/
def Role.peer : Role → Role
  | client => server
  | server => client

theorem Role.ne_peer (r : Role) : r ≠ r.peer := by cases r <;> decide

@[simp] theorem Role.peer_peer (r : Role) : r.peer.peer = r := by cases r <;> rfl

/-- **The session phases**: bootstrap, selected plane, ready, and the two ends. -/
inductive SessionPhase where
  | awaitClientHello
  | awaitServerHello
  | selectedAwaitAuthenticate
  | selectedAwaitSessionReady
  | ready
  | bootstrapFailed
  | failed
  deriving DecidableEq, Repr, Inhabited

namespace SessionPhase

/-- Whether the selected-version frame plane is active. -/
def inSelectedPlane : SessionPhase → Bool
  | selectedAwaitAuthenticate | selectedAwaitSessionReady | ready | failed => true
  | _ => false

def isReady : SessionPhase → Bool
  | ready => true
  | _ => false

/-- Phases that reject further progress. -/
def isTerminal : SessionPhase → Bool
  | bootstrapFailed | failed => true
  | _ => false

@[simp] theorem isReady_iff (p : SessionPhase) : p.isReady = true ↔ p = ready := by
  cases p <;> simp [isReady]

@[simp] theorem isReady_eq_false_iff (p : SessionPhase) : p.isReady = false ↔ p ≠ ready := by
  cases p <;> simp [isReady]

end SessionPhase

/-- The supported `operation_kind` values. -/
inductive OperationKind where
  | topicSubscribe
  | topicPublish
  | serviceClient
  | serviceServer
  | actionClient
  | actionServer
  deriving DecidableEq, Repr, Inhabited

namespace OperationKind

/-- Parse a supported kind; media, recording and asset stay rejected. -/
def fromU8 (value : UInt8) : Option OperationKind :=
  match value.toNat with
  | 0 => some topicSubscribe
  | 1 => some topicPublish
  | 2 => some serviceClient
  | 3 => some serviceServer
  | 4 => some actionClient
  | 5 => some actionServer
  | _ => none

/-- Whether `ROS_SAMPLE` from `sender` is legal on an active channel of this kind. -/
def allowsRosSampleFrom : OperationKind → Role → Bool
  | topicSubscribe, sender => sender == .server
  | topicPublish, sender => sender == .client
  | _, _ => false

def isService : OperationKind → Bool
  | serviceClient | serviceServer => true
  | _ => false

def isAction : OperationKind → Bool
  | actionClient | actionServer => true
  | _ => false

/-- Whether an application opcode is legal for this kind. -/
def allowsOpcode (kind : OperationKind) (opcode : UInt8) : Bool :=
  match kind with
  | topicSubscribe | topicPublish => opcode == opcodeRosSample
  | serviceClient | serviceServer =>
    opcode == opcodeServiceRequest || opcode == opcodeServiceResponse
  | actionClient | actionServer =>
    opcode == opcodeActionGoal || opcode == opcodeActionFeedback ||
      opcode == opcodeActionResult || opcode == opcodeActionStatus ||
      opcode == opcodeActionCancel

/-- The wire sender of an opcode when `requester` sends the requests or goals. -/
def serviceSender (requester : Role) (opcode : UInt8) : Option Role :=
  if opcode = opcodeServiceRequest then some requester
  else if opcode = opcodeServiceResponse then some requester.peer
  else none

def actionSender (requester : Role) (opcode : UInt8) : Option Role :=
  if opcode = opcodeActionGoal ∨ opcode = opcodeActionCancel then some requester
  else if opcode = opcodeActionFeedback ∨ opcode = opcodeActionResult ∨
      opcode = opcodeActionStatus then some requester.peer
  else none

/-- The absolute wire sender of an opcode on this kind; `none` is illegal. -/
def opcodeSender (kind : OperationKind) (opcode : UInt8) : Option Role :=
  match kind with
  | topicSubscribe => if opcode = opcodeRosSample then some .server else none
  | topicPublish => if opcode = opcodeRosSample then some .client else none
  | serviceClient => serviceSender .client opcode
  | serviceServer => serviceSender .server opcode
  | actionClient => actionSender .client opcode
  | actionServer => actionSender .server opcode

end OperationKind

/-- ChannelReady `result` values. -/
inductive ChannelResult where
  | allow
  | deny
  | limited
  | error
  deriving DecidableEq, Repr, Inhabited

namespace ChannelResult

def fromU8 (value : UInt8) : Option ChannelResult :=
  match value.toNat with
  | 0 => some allow
  | 1 => some deny
  | 2 => some limited
  | 3 => some error
  | _ => none

def isSuccess : ChannelResult → Bool
  | allow | limited => true
  | _ => false

end ChannelResult

/-- **The lifecycle of one channel id.** -/
inductive ChannelState where
  | unused
  | pending
  | active
  | failed
  | closed
  deriving DecidableEq, Repr, Inhabited

/-- What is recorded of a channel from its OpenChannel on. -/
structure ChannelEntry where
  state : ChannelState
  operationKind : OperationKind
  openCorrelation : List UInt8
  deriving DecidableEq, Repr, Inhabited

/-- Channel id to entry; a key is present when its OpenChannel was seen. -/
structure ChannelTable where
  entries : Table UInt32 ChannelEntry

namespace ChannelTable

def empty : ChannelTable := ⟨∅⟩

def get (t : ChannelTable) (id : UInt32) : Option ChannelEntry := t.entries.find? id

/-- The lifecycle view; unknown ids are unused. -/
def state (t : ChannelTable) (id : UInt32) : ChannelState :=
  ((t.get id).map (·.state)).getD .unused

def contains (t : ChannelTable) (id : UInt32) : Bool := (t.get id).isSome

def insertPending (t : ChannelTable) (id : UInt32) (operationKind : OperationKind)
    (openCorrelation : List UInt8) : ChannelTable :=
  ⟨t.entries.set id ⟨.pending, operationKind, openCorrelation⟩⟩

/-- Change the state of a recorded channel; nothing happens on an unknown id. -/
def setState (t : ChannelTable) (id : UInt32) (state : ChannelState) : ChannelTable :=
  match t.get id with
  | some entry => ⟨t.entries.set id { entry with state := state }⟩
  | none => t

@[simp] theorem get_empty (id : UInt32) : empty.get id = none := by
  simp [empty, get]

theorem get_insertPending (t : ChannelTable) (id : UInt32) (k : OperationKind)
    (c : List UInt8) (id' : UInt32) :
    (t.insertPending id k c).get id' = if id' = id then some ⟨.pending, k, c⟩ else t.get id' := by
  simp [insertPending, get, Table.find?_set]

theorem get_setState (t : ChannelTable) (id : UInt32) (s : ChannelState) (id' : UInt32) :
    (t.setState id s).get id' =
      if id' = id then (t.get id).map (fun e => { e with state := s }) else t.get id' := by
  unfold setState
  cases hget : t.get id with
  | none => by_cases h : id' = id <;> simp [h, hget]
  | some entry => simp [get, Table.find?_set]

theorem contains_iff_state (t : ChannelTable) (id : UInt32) :
    t.contains id = true ↔ ∃ e, t.get id = some e := by
  simp [contains, Option.isSome_iff_exists]

end ChannelTable
end Rclweb
