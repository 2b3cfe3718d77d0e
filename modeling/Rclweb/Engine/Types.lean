import Rclweb.Session.Session

/-!
# The host interface of the client engine

Events and commands the browser host feeds the engine, and what one poll turn gives back.
Operation ids and correlations are the 16-byte arrays of the source, so their length is part
of their type.

Serialization of ROS messages and the schema registry are not part of the engine: it takes
them from a `Library`.
-/

namespace Rclweb

/-- A byte string of a fixed length. -/
abbrev ByteArrayOf (n : ℕ) := { bytes : List UInt8 // bytes.length = n }

/-- A 16-byte operation id. -/
abbrev OperationId := ByteArrayOf 16

/-- The id of the channel-wide status stream. -/
def OperationId.zero : OperationId := ⟨List.replicate 16 0, rfl⟩

namespace Engine

/-- `std_msgs/Header`. -/
structure PointCloud2Header where
  stampSec : Int32
  stampNanosec : UInt32
  frameId : String

structure PointField where
  name : String
  offset : UInt32
  datatype : UInt8
  count : UInt32

/-- A point cloud whose `data` is only the point payload. -/
structure PointCloud2View where
  header : PointCloud2Header
  height : UInt32
  width : UInt32
  fields : List PointField
  isBigendian : Bool
  pointStep : UInt32
  rowStep : UInt32
  data : List UInt8
  isDense : Bool

/-- The section of a service or action type a payload belongs to. -/
inductive GeneratedOpKind where
  | request
  | response
  | goal
  | result
  | feedback
  deriving DecidableEq, Repr

/-- The sectioned type name of a payload on a channel of a generated type. -/
def generatedOpTypeName (channelType : String) (op : GeneratedOpKind) : Option String :=
  if channelType = "rclweb_cdr_interfaces/srv/EchoNested" then
    match op with
    | .request => some "rclweb_cdr_interfaces/srv/EchoNested_Request"
    | .response => some "rclweb_cdr_interfaces/srv/EchoNested_Response"
    | _ => none
  else if channelType = "rclweb_cdr_interfaces/action/MeasureSequence" then
    match op with
    | .goal => some "rclweb_cdr_interfaces/action/MeasureSequence_Goal"
    | .result => some "rclweb_cdr_interfaces/action/MeasureSequence_Result"
    | .feedback => some "rclweb_cdr_interfaces/action/MeasureSequence_Feedback"
    | _ => none
  else none

/-- A failed lookup in the schema registry. -/
structure SchemaError where
  wireErrorCode : Option UInt8
  message : String

/-- **What the engine takes from the serialization and schema libraries.** -/
structure Library where
  /-- Phase 1 roots are looked up before a channel opens; other types pass. -/
  lookupPhase1RootForOpen : (typeName supportRowId : String) → Except SchemaError Unit
  /-- Scheme and value of a Phase 1 root under a scheme. -/
  schemaIdentityForType : (typeName scheme : String) → Option (String × String)
  encodeStdMsgsString : String → Option (List UInt8)
  decodeStdMsgsString : List UInt8 → Option String
  encodePointCloud2 : PointCloud2View → Option (List UInt8)
  /-- Packed host layout of a generated type to CDR. -/
  encodeHostValue : (typeName : String) → List UInt8 → Option (List UInt8)

/-! ## Host to engine -/

/-- The channel settings of a topic command. -/
structure TopicOptions where
  correlation : ByteArrayOf 16
  channelId : UInt32
  topic : String
  typeName : String
  qosReliability : UInt8
  qosDepth : UInt32
  domainId : UInt8

/-- The channel settings of a service or action command. -/
structure EndpointOptions where
  correlation : ByteArrayOf 16
  channelId : UInt32
  name : String
  typeName : String
  domainId : UInt8
  client : Bool

/-- **Application commands.** -/
inductive AppCommand where
  | start (transferableArraybuffer webtransport : Bool)
  | authenticate (correlation : ByteArrayOf 16) (scheme : String) (token : List UInt8)
  | subscribe (options : TopicOptions)
  | publish (options : TopicOptions)
  | sendSample (channelId : UInt32) (stringData : String)
  | sendPointCloud2 (channelId : UInt32) (view : PointCloud2View)
  | sendGenerated (channelId : UInt32) (typeName : String) (value : List UInt8)
  | openService (options : EndpointOptions)
  | callService (channelId : UInt32) (operationId : OperationId) (request : List UInt8)
  | sendServiceResponse (channelId : UInt32) (operationId : OperationId) (response : List UInt8)
  | openAction (options : EndpointOptions)
  | sendActionGoal (channelId : UInt32) (operationId : OperationId) (goal : List UInt8)
  | cancelAction (channelId : UInt32) (operationId : OperationId)
  | sendActionFeedback (channelId : UInt32) (operationId : OperationId) (feedback : List UInt8)
  | sendActionResult (channelId : UInt32) (operationId : OperationId) (result : List UInt8)
  | sendActionStatus (channelId : UInt32) (operationId : OperationId) (status : List UInt8)
  | unsubscribe (correlation : ByteArrayOf 16) (channelId : UInt32)
  | close

/-- **Host events**; buffer id 0 lets the engine choose one. -/
inductive HostEvent where
  | wsBytes (bufferId : UInt32) (bytes : List UInt8)
  | timer (nowMs : UInt64)
  | command (cmd : AppCommand)
  | releaseLease (leaseId : UInt32)

/-! ## Engine to host -/

/-- An inbound service or action frame, by the lease of its payload. -/
structure OperationEvent where
  channelId : UInt32
  operationId : List UInt8
  leaseId : UInt32
  sequence : UInt64
  deriving DecidableEq, Repr

/-- **Application events.** -/
inductive AppEvent where
  | bootstrapComplete (selectedWireVersion : UInt8)
  | sessionReady (supportRow : String) (domainId : UInt8) (gatewayInstanceId : String)
  | subscribed (channelId : UInt32) (topic typeName : String)
  | subscribeFailed (channelId : UInt32) (code : UInt8) (message : String)
  | published (channelId : UInt32) (topic typeName : String) (qosReliability : UInt8)
  | publishFailed (channelId : UInt32) (code : UInt8) (message : String)
  | sample (channelId leaseId : UInt32) (sequence : UInt64) (sourceTimeNs : Int64)
      (stringData : Option String)
  | heartbeat (counter : UInt64)
  | serviceReady (channelId : UInt32) (name typeName : String) (client : Bool)
  | serviceFailed (channelId : UInt32) (code : UInt8) (message : String)
  | serviceRequest (event : OperationEvent)
  | serviceResponse (event : OperationEvent)
  | actionReady (channelId : UInt32) (name typeName : String) (client : Bool)
  | actionFailed (channelId : UInt32) (code : UInt8) (message : String)
  | actionGoal (event : OperationEvent)
  | actionFeedback (event : OperationEvent)
  | actionResult (event : OperationEvent)
  | actionStatus (event : OperationEvent)
  | graphSnapshot (generation : UInt64) (nodesJson endpointsJson : String)
  | graphDelta (generation : UInt64)
  | operationCancelled (channelId : UInt32) (code : UInt8) (message : String)
  | error (code : UInt8) (message : String)
  | closed (phase : SessionPhase)
  deriving DecidableEq, Repr

structure OutboundMessage where
  bufferId : UInt32
  bytes : List UInt8
  deriving DecidableEq, Repr

structure ReleasedBuffer where
  bufferId : UInt32
  len : UInt32
  deriving DecidableEq, Repr

/-- **The result of one poll turn.** -/
structure PollOutcome where
  outbound : List OutboundMessage := []
  events : List AppEvent := []
  releasedBuffers : List ReleasedBuffer := []
  nextDeadlineMs : Option UInt64 := none
  deriving DecidableEq, Repr

def maxHostEventsPerPoll : ℕ := 64
def maxOutboundPerPoll : ℕ := 64

end Engine
end Rclweb
