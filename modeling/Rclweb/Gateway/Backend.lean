import Rclweb.Engine.Types
import Rclweb.Library.Program

/-!
# The ROS backend, as the gateway sees it

One interface separates the connection from the ROS graph.  A connection is a program over
`BackendOp`; the backend chooses the answers, and feeds samples, service requests and action
inbounds on the side.

`RequestedQos` and `EffectiveQos` are here because an entity is created with the latter.
-/

namespace Rclweb
namespace Gateway

/-- Opaque backend entity handle. -/
abbrev EntityId := UInt64

/-- Reserved header bytes in front of a payload. -/
def sampleHeaderPrefix : ℕ := Frame.frameHeaderLength

/-- One inbound serialized sample: header bytes to be filled in, then the payload. -/
structure SubscriptionSample where
  channelId : UInt32
  frameBuf : List UInt8
  deriving DecidableEq, Repr

/-- The payload behind the reserved header. -/
def payloadOf (frameBuf : List UInt8) : List UInt8 := frameBuf.drop sampleHeaderPrefix

/-- An inbound service request for a service-server channel. -/
structure ServiceRequest where
  channelId : UInt32
  operationId : OperationId
  frameBuf : List UInt8

/-- An inbound goal or cancel for an action-server channel. -/
structure ActionInbound where
  isCancel : Bool
  channelId : UInt32
  operationId : OperationId
  frameBuf : List UInt8

structure GraphNodeInfo where
  id : List UInt8
  name : String
  nodeNamespace : Option String
  domainId : UInt8
  deriving DecidableEq, Repr

/-- A graph endpoint; kinds 0 to 3 are topics and services, 4 and 5 actions. -/
structure GraphEndpointInfo where
  id : List UInt8
  nodeId : List UInt8
  name : String
  kind : UInt8
  typeName : String
  domainId : UInt8
  deriving DecidableEq, Repr

structure GraphView where
  nodes : List GraphNodeInfo
  endpoints : List GraphEndpointInfo
  deriving DecidableEq, Repr

/-- A backend failure with the wire error code of its error bodies. -/
structure BackendError where
  code : UInt8
  message : String
  deriving DecidableEq, Repr

/-! ## Quality of service -/

/-- Requested quality of service, zero where the system default is asked for. -/
structure RequestedQos where
  reliability : UInt8 := 0
  durability : UInt8 := 0
  historyKind : UInt8 := 0
  historyDepth : Option UInt32 := none
  liveliness : UInt8 := 0
  deriving DecidableEq, Repr

/-- One entry of a requested profile. -/
def RequestedQos.read (out : RequestedQos) (entry : UInt64 × CborValue) : RequestedQos :=
  match entry.2 with
  | .unsigned n =>
    if entry.1 = 1 then { out with reliability := n.toUInt8 }
    else if entry.1 = 2 then { out with durability := n.toUInt8 }
    else if entry.1 = 3 then { out with historyKind := n.toUInt8 }
    else if entry.1 = 4 then { out with historyDepth := some n.toUInt32 }
    else if entry.1 = 7 then { out with liveliness := n.toUInt8 }
    else out
  | _ => out

/-- Extract a profile from the validated map of an OpenChannel. -/
def RequestedQos.fromWire : CborValue → RequestedQos
  | .map entries => entries.foldl RequestedQos.read {}
  | _ => {}

/-- Concrete quality of service. -/
structure EffectiveQos where
  reliable : Bool
  transientLocal : Bool
  keepAll : Bool
  depth : UInt32
  manualByTopic : Bool
  deriving DecidableEq, Repr

/-- System defaults are reliable, volatile, the last ten, automatic. -/
def resolveEffective (requested : RequestedQos) : EffectiveQos :=
  let keepAll := requested.historyKind == 2
  { reliable := requested.reliability != 2
    transientLocal := requested.durability == 1
    keepAll := keepAll
    depth := if keepAll then 0 else max (requested.historyDepth.getD 10) 1
    manualByTopic := requested.liveliness == 2 }

/-- The wire map of a concrete profile. -/
def EffectiveQos.toWire (qos : EffectiveQos) : CborValue :=
  .map ([(1, CborValue.unsigned (if qos.reliable then 1 else 2)),
    (2, CborValue.unsigned (if qos.transientLocal then 1 else 2)),
    (3, CborValue.unsigned (if qos.keepAll then 2 else 1))] ++
    (if qos.keepAll then [] else [(4, CborValue.unsigned qos.depth.toUInt64)]) ++
    [(7, CborValue.unsigned (if qos.manualByTopic then 2 else 1))])

/-! ## Operations -/

/-- What an entity is created for. -/
structure ChannelSpec where
  channelId : UInt32
  topic : String
  typeName : String
  qos : EffectiveQos
  deriving DecidableEq, Repr

/-- **What a connection asks of the backend.**  `create` stands for the six operations
`create_subscription`, `create_publisher`, `create_client`, `create_service`,
`create_action_client` and `create_action_server`, told apart by the kind. -/
inductive BackendOp where
  | create (kind : OperationKind) (spec : ChannelSpec)
  | publish (entity : EntityId) (payload : List UInt8)
  | call (entity : EntityId) (operationId : OperationId) (payload : List UInt8)
  | sendServiceResponse (entity : EntityId) (operationId : OperationId) (payload : List UInt8)
  | sendActionGoal (entity : EntityId) (operationId : OperationId) (payload : List UInt8)
  | cancelAction (entity : EntityId) (operationId : OperationId) (payload : List UInt8)
  | sendActionFeedback (entity : EntityId) (operationId : OperationId) (payload : List UInt8)
  | sendActionResult (entity : EntityId) (operationId : OperationId) (payload : List UInt8)
  | sendActionStatus (entity : EntityId) (operationId : OperationId) (payload : List UInt8)
  | graphView
  | destroy (entity : EntityId)
  deriving DecidableEq, Repr

/-- What the backend answers with. -/
def BackendOp.Answer : BackendOp → Type
  | create _ _ => Except BackendError EntityId
  | call _ _ _ | sendActionGoal _ _ _ => Except BackendError (List UInt8)
  | graphView => Except BackendError GraphView
  | destroy _ => Unit
  | _ => Except BackendError Unit

/-- A program over the backend. -/
abbrev Task (α : Type) := Program BackendOp BackendOp.Answer α

/-- An operation of the backend with its answer. -/
abbrev BackendEvent := Program.Event BackendOp BackendOp.Answer

end Gateway
end Rclweb
