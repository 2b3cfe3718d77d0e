import Rclweb.Library.InsertionMap
import Rclweb.Library.Json
import Rclweb.Worker.IoWorker

/-!
# What the two clients share

A client of the application keeps its engine on the same thread (`InlineClient`) or behind the I/O
worker (`WorkerClient`).  Both track the channels they have opened, so that they can open them again
after a reconnect, and both hand out promises.  Promises and the handlers of the application are
numbered here.
-/

namespace Rclweb
namespace Client

open Rclweb.Types

structure QosOptions where
  reliability : Option ℕ := none
  depth : Option ℕ := none
  deriving DecidableEq, Repr

def defaultQosDepth : ℕ := 5

/-- The options of `connect` that concern a reconnect. -/
structure ReconnectOptions where
  reconnect : Bool := false
  reconnectAttempts : Option ℕ := none
  deriving DecidableEq, Repr

/-- `options.reconnectAttempts ?? 3` -/
def ReconnectOptions.max (options : ReconnectOptions) : ℕ := options.reconnectAttempts.getD 3

inductive ChannelKind where
  | subscribe
  | publish
  | serviceClient
  | serviceServer
  | actionClient
  | actionServer
  deriving DecidableEq, Repr

structure ActionServerHandlers where
  onGoal : Option ℕ := none
  onCancel : Option ℕ := none
  deriving DecidableEq, Repr

/-- **A tracked channel.** -/
structure ChannelRecord where
  kind : ChannelKind
  topic : String
  typeName : String
  qos : QosOptions
  channelId : ℕ
  handler : Option ℕ := none
  serviceHandler : Option ℕ := none
  actionHandlers : Option ActionServerHandlers := none
  deriving DecidableEq, Repr

/-- The handler of `reopenTrackedChannels` for a record without one: it answers with no bytes. -/
def emptyHandler : ℕ := 0

/-- The graph as the application sees it; `JSON.parse` gives the lists. -/
structure GraphView where
  generation : ℕ := 0
  nodes : Json := .array []
  endpoints : Json := .array []

/-- The two lists of a snapshot.  A syntax error leaves the lists that were not read yet empty. -/
def parseGraph (nodesJson endpointsJson : String) : Json × Json :=
  match Json.parse nodesJson with
  | none => (.array [], .array [])
  | some nodes => (nodes, (Json.parse endpointsJson).getD (.array []))

/-- Sixteen equal bytes. -/
def corrTag (tag : ℕ) : List UInt8 := List.replicate 16 (UInt8.ofNat tag)

/-- The low four bits of a channel id, added to the tag of an open. -/
def openTag (base channelId : ℕ) : List UInt8 := corrTag (base + channelId % 16)

/-- The correlation of the command that closes a channel. -/
def closeTag : ChannelKind → List UInt8
  | .subscribe => corrTag 0xc3
  | .publish => corrTag 0xc4
  | .serviceClient => corrTag 0xc5
  | .serviceServer => corrTag 0xc6
  | .actionClient => corrTag 0xc7
  | .actionServer => corrTag 0xc8

/-- A message of the application: what the type guards find in it, and what
`encodeGeneratedHostValue` makes of it. -/
structure SampleMessage where
  text : Option String := none
  cloud : Option Worker.PointCloud2 := none
  generated : Except String (List UInt8) := .error ""

/-- What a sample is delivered as. -/
inductive SampleContent where
  | text (data : String)
  | cloud (message : Worker.PointCloud2)
  | generated (message : GeneratedMessage)
  deriving DecidableEq

/-- What a promise is resolved with. -/
inductive Value where
  | done
  | channel (kind : ChannelKind) (topic typeName : String) (channelId : ℕ)
  | bytes (payload : List UInt8)
  deriving DecidableEq, Repr

inductive Settlement where
  | resolved (value : Value)
  | rejected (message : String)
  deriving DecidableEq, Repr

/-- A call of a handler of the application. -/
inductive Invocation where
  | sample (handler : ℕ) (message : SampleContent) (leaseId : UInt32)
  | request (handler : ℕ) (request operationId : List UInt8)
  | goal (handler : ℕ) (goal operationId : List UInt8)
  | feedback (handler : ℕ) (feedback operationId : List UInt8)
  | status (handler : ℕ) (status operationId : List UInt8)
  | graph (handler : ℕ) (view : GraphView)

/-- **What the application asks of a client and of the handles it has from it.**  A handle is its
channel id and, for a topic, the type name; operation ids are drawn at random. -/
inductive AppCall where
  | reconnect
  | close
  | subscribe (topic typeName : String) (qos : QosOptions)
  | publish (topic typeName : String) (qos : QosOptions)
  | createServiceClient (name typeName : String)
  | createServiceServer (name typeName : String) (handler : ℕ)
  | createActionClient (name typeName : String)
  | createActionServer (name typeName : String) (handlers : ActionServerHandlers)
  | onGraph (handler : ℕ)
  | onMessage (channelId : ℕ) (typeName : String) (handler : ℕ)
  | send (channelId : ℕ) (typeName : String) (message : SampleMessage)
  | call (channelId : ℕ) (operationId request : List UInt8)
  | sendGoal (channelId : ℕ) (operationId goal : List UInt8)
  | cancel (channelId : ℕ) (operationId : List UInt8)
  | onFeedback (channelId handler : ℕ)
  | onStatus (channelId handler : ℕ)
  | sendFeedback (channelId : ℕ) (operationId feedback : List UInt8)
  | sendResult (channelId : ℕ) (operationId result : List UInt8)
  | sendStatus (channelId : ℕ) (operationId status : List UInt8)
  | closeChannel (kind : ChannelKind) (channelId : ℕ)

end Client
end Rclweb
