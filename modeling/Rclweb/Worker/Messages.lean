import Rclweb.Engine.Types
import Rclweb.Types.Generated

/-!
# Messages between the page and its I/O worker

The page drives the worker with requests that carry a number, and the worker's messages say which
request they answer.  `requestId?` is that number on the way in, `settles` on the way out: the
entry of its table of promises that the page resolves or rejects.
-/

namespace Rclweb
open Rclweb.Types

namespace Worker

structure PointCloud2Field where
  name : String
  offset : ℕ
  datatype : ℕ
  count : ℕ
  deriving DecidableEq, Repr

/-- A point cloud as an object of the page. -/
structure PointCloud2 where
  stampSec : ℤ
  stampNanosec : ℕ
  frameId : String
  height : ℕ
  width : ℕ
  fields : List PointCloud2Field
  isBigendian : Bool
  pointStep : ℕ
  rowStep : ℕ
  isDense : Bool
  data : List UInt8
  deriving DecidableEq, Repr

inductive Transport where
  | websocket
  | webtransport
  deriving DecidableEq, Repr

/-- A pinned certificate: the hash as text or as bytes. -/
inductive CertificateHash where
  | text (value : String)
  | bytes (value : List UInt8)
  deriving DecidableEq, Repr

structure ConnectOptions where
  transport : Option Transport := none
  serverCertificateHashes : Option (List CertificateHash) := none
  fetchLocalDevTls : Option Bool := none
  localDevTlsOrigin : Option String := none
  deriving DecidableEq, Repr

/-- What opening a topic channel asks for. -/
structure TopicRequest where
  topic : String
  typeName : String
  channelId : ℕ
  correlation : List UInt8
  qosReliability : Option ℕ
  qosDepth : Option ℕ
  deriving DecidableEq, Repr

/-- What opening a service or action channel asks for. -/
structure EndpointRequest where
  channelId : ℕ
  name : String
  typeName : String
  client : Bool
  correlation : List UInt8
  deriving DecidableEq, Repr

/-- What a message about one operation of a channel carries. -/
structure OperationRequest where
  channelId : ℕ
  operationId : List UInt8
  payload : List UInt8
  deriving DecidableEq, Repr

/-- **From the page to the worker.** -/
inductive MainToWorker where
  | init (requestId : ℕ) (wasmUrl : String)
  | connect (requestId : ℕ) (url : String) (options : ConnectOptions)
  | reconnect (requestId : ℕ)
  | subscribe (requestId : ℕ) (request : TopicRequest)
  | publish (requestId : ℕ) (request : TopicRequest)
  | sendSample (requestId channelId : ℕ) (data : String)
  | sendPointCloud2 (requestId channelId : ℕ) (message : PointCloud2)
  | sendGenerated (requestId channelId : ℕ) (typeName : String) (value : List UInt8)
  | unsubscribe (requestId channelId : ℕ) (correlation : List UInt8)
  | openService (requestId : ℕ) (request : EndpointRequest)
  | callService (requestId : ℕ) (request : OperationRequest)
  | sendServiceResponse (requestId : ℕ) (request : OperationRequest)
  | openAction (requestId : ℕ) (request : EndpointRequest)
  | sendActionGoal (requestId : ℕ) (request : OperationRequest)
  | cancelAction (requestId channelId : ℕ) (operationId : List UInt8)
  | sendActionFeedback (requestId : ℕ) (request : OperationRequest)
  | sendActionResult (requestId : ℕ) (request : OperationRequest)
  | sendActionStatus (requestId : ℕ) (request : OperationRequest)
  | releaseLease (leaseId : UInt32)
  | close (requestId : ℕ)
  deriving DecidableEq, Repr

/-- `"requestId" in msg ? msg.requestId : undefined`; the page numbers an `init` too. -/
def MainToWorker.requestId? : MainToWorker → Option ℕ
  | .init r _ | .connect r _ _ | .reconnect r | .subscribe r _ | .publish r _ | .sendSample r _ _
  | .sendPointCloud2 r _ _ | .sendGenerated r _ _ _ | .unsubscribe r _ _ | .openService r _
  | .callService r _ | .sendServiceResponse r _ | .openAction r _ | .sendActionGoal r _
  | .cancelAction r _ _ | .sendActionFeedback r _ | .sendActionResult r _
  | .sendActionStatus r _ | .close r => some r
  | .releaseLease _ => none

/-- **The messages the page awaits an answer to** in `request`, `subscribe`, `publish` and the
four that create services and actions.  Service calls, action goals and service responses are
posted past them. -/
def MainToWorker.awaited : MainToWorker → Bool
  | .callService _ _ | .sendServiceResponse _ _ | .sendActionGoal _ _ | .releaseLease _ => false
  | _ => true

/-- Where the bytes of a payload the host kept lie in the buffer that is transferred. -/
structure BufferView where
  buffer : List UInt8
  byteOffset : ℕ
  byteLength : ℕ
  deriving DecidableEq, Repr

inductive HostCdrKind where
  | string
  | pointcloud2
  | generated (typeName : String)
  deriving DecidableEq, Repr

/-- **From the worker to the page.**  The telemetry snapshot is left out. -/
inductive WorkerToMain where
  | ready
  | connected (requestId : ℕ)
  | subscribed (requestId channelId : ℕ) (topic typeName : String)
  | subscribeFailed (requestId channelId code : ℕ) (message : String)
  | published (requestId channelId : ℕ) (topic typeName : String) (qosReliability : ℕ)
  | publishFailed (requestId channelId code : ℕ) (message : String)
  | sample (channelId : ℕ) (leaseId : UInt32) (data : String)
  | samplePointCloud2 (channelId : ℕ) (leaseId : UInt32) (message : PointCloud2)
  | sampleHostCdr (channelId : ℕ) (kind : HostCdrKind) (view : BufferView)
  | sampleGenerated (channelId : ℕ) (leaseId : UInt32) (typeName : String)
      (message : GeneratedMessage)
  | serviceReady (requestId channelId : ℕ) (name typeName : String) (client : Bool)
  | serviceFailed (requestId channelId code : ℕ) (message : String)
  | serviceResponse (requestId channelId : ℕ) (operationId payload : List UInt8)
  | serviceRequest (channelId : ℕ) (operationId payload : List UInt8)
  | actionReady (requestId channelId : ℕ) (name typeName : String) (client : Bool)
  | actionFailed (requestId channelId code : ℕ) (message : String)
  | actionGoal (channelId : ℕ) (operationId payload : List UInt8)
  | actionFeedback (channelId : ℕ) (operationId payload : List UInt8)
  | actionResult (requestId channelId : ℕ) (operationId payload : List UInt8)
  | actionStatus (channelId : ℕ) (operationId payload : List UInt8)
  | graphSnapshot (generation : ℕ) (nodesJson endpointsJson : String)
  | graphDelta (generation : ℕ)
  | operationCancelled (channelId code : ℕ) (message : String)
  | error (requestId : Option ℕ) (message : String)
  | ack (requestId : ℕ)
  | telemetry
  | closed (requestId : Option ℕ)
  deriving DecidableEq

/-- **The promise a message settles** on the page.  `ready` settles the first one, which is that of
the `init`; a cancellation rejects by channel and only what is posted past `request`. -/
def WorkerToMain.settles : WorkerToMain → Option ℕ
  | .ready => some 1
  | .connected r | .subscribed r _ _ _ | .subscribeFailed r _ _ _ | .published r _ _ _ _
  | .publishFailed r _ _ _ | .serviceReady r _ _ _ _ | .serviceFailed r _ _ _
  | .serviceResponse r _ _ _ | .actionReady r _ _ _ _ | .actionFailed r _ _ _
  | .actionResult r _ _ _ | .ack r => some r
  | .error r _ | .closed r => r
  | .sample _ _ _ | .samplePointCloud2 _ _ _ | .sampleHostCdr _ _ _ | .sampleGenerated _ _ _ _
  | .serviceRequest _ _ _ | .actionGoal _ _ _ | .actionFeedback _ _ _ | .actionStatus _ _ _
  | .graphSnapshot _ _ _ | .graphDelta _ | .operationCancelled _ _ _ | .telemetry => none

end Worker
end Rclweb
