import Mathlib.Data.List.Sort
import Rclweb.Gateway.Backend
import Rclweb.Gateway.Config
import Rclweb.Protocol.Encode

/-!
# Control messages of the gateway

Negotiation of the ServerHello and the maps the gateway sends: SessionReady, the graph, the
answers to OpenChannel, heartbeats and errors.
-/

namespace Rclweb
namespace Gateway

variable {jwt : JwtLibrary}

/-- Demo hash of Jazzy placeholders. -/
def rihsDemo : String :=
  "RIHS01_aaaaaaaaaaaaaaaaaaaaaaaaaaaaaaaaaaaaaaaaaaaaaaaaaaaaaaaaaaaaaaaa"

/-- Demo value of Humble placeholders. -/
def bundleDemo : String :=
  "aaaaaaaaaaaaaaaaaaaaaaaaaaaaaaaaaaaaaaaaaaaaaaaaaaaaaaaaaaaaaaaa"

/-! ## Hello negotiation -/

def maxChannelsCeiling : UInt32 := 65535
def maxSessionBytesCeiling : UInt64 := 4294967296
def maxMessageBytesCeiling : UInt32 := 67108864
def maxControlPayloadBytesCeiling : UInt32 := 1048576

/-- The least of what is requested, configured and allowed by the protocol. -/
def effectiveLimit {α : Type} [Min α] (requested : Option α) (hard ceiling : α) : α :=
  min (min (requested.getD hard) hard) ceiling

/-- **Negotiate a ServerHello**; the failure is a bootstrap error code. -/
def negotiateServerHello (hello : ClientHello) (config : GatewayConfig jwt)
    (active : ActiveTransport) : Except UInt8 ServerHello :=
  let webtransport := hello.transportCapabilities.webtransportHttp3 && config.offerWebtransport
  let binaryWss := hello.transportCapabilities.binaryWss
  let limits := hello.requestedLimits
  if !hello.wireVersions.contains 0 then .error 2
  else if active = .binaryWebSocket ∧ !binaryWss then .error 25
  else if active = .webTransportHttp3 ∧ !webtransport then .error 25
  else
    .ok
      { selectedWireVersion := 0
        transportCapabilities := ⟨webtransport, binaryWss, none⟩
        bufferCapabilities := ⟨hello.bufferCapabilities.transferableArraybuffer, false⟩
        effectiveLimits :=
          { maxChannels := effectiveLimit limits.maxChannels config.maxChannels maxChannelsCeiling
            maxSessionBytes :=
              effectiveLimit limits.maxSessionBytes config.maxSessionBytes maxSessionBytesCeiling
            maxMessageBytes :=
              effectiveLimit limits.maxMessageBytes config.maxMessageBytes maxMessageBytesCeiling
            maxControlPayloadBytes :=
              effectiveLimit limits.maxControlPayloadBytes config.maxControlPayloadBytes
                maxControlPayloadBytesCeiling }
        extensionCapabilities := [] }

/-! ## Session and channel answers -/

def zeroCorrelation : List UInt8 := List.replicate 16 0

def effectiveBudgetsMap (maxSamples maxBytes maxMessageBytes : UInt64) : CborValue :=
  .map [(1, .unsigned maxSamples), (2, .unsigned maxBytes), (3, .unsigned maxMessageBytes)]

def negotiatedCapabilitiesValue (hello : ServerHello) : CborValue :=
  .map [
    (1, .map ([(1, CborValue.bool hello.transportCapabilities.webtransportHttp3),
      (2, CborValue.bool hello.transportCapabilities.binaryWss)] ++
      Encode.optEntry 3 hello.transportCapabilities.maxDatagramSize Encode.ofU32)),
    (2, .map [(1, .bool hello.bufferCapabilities.transferableArraybuffer),
      (2, .bool hello.bufferCapabilities.sharedArraybuffer)]),
    (3, .array (hello.extensionCapabilities.map fun id => .unsigned id.toUInt64))]

/-- **SessionReady**, the answer to an Authenticate. -/
def sessionReady (config : GatewayConfig jwt) (serverHello : ServerHello)
    (correlation sessionId : List UInt8) (effectiveIdentity : String) : CborValue :=
  .map [
    (1, .unsigned 2), (2, .bytes correlation), (7, .text config.gatewayInstanceId),
    (8, .text config.supportRow.id), (10, .array [.unsigned config.domainId.toUInt64]),
    (12, effectiveBudgetsMap config.maxChannels.toUInt64 config.maxSessionBytes
      config.maxMessageBytes.toUInt64),
    (13, .text config.policyRevision), (18, .text config.supportRow.rosDistro),
    (19, .text config.supportRow.rmwIdentifier), (20, .text config.adapterAbiVersion),
    (21, .text effectiveIdentity), (53, .bytes sessionId),
    (54, negotiatedCapabilitiesValue serverHello)]

/-- A successful ChannelReady; `qos` is the field its effective quality of service is in. -/
def channelReady (config : GatewayConfig jwt) (correlation : List UInt8) (channelId : UInt32)
    (effectivePriority : UInt8) (qos : UInt64 × CborValue) : CborValue :=
  .map [
    (1, .unsigned 9), (2, .bytes correlation), (29, .unsigned channelId.toUInt64),
    (33, .unsigned 0),
    (12, effectiveBudgetsMap config.sampleQueueDepth config.sampleQueueMaxBytes
      config.maxMessageBytes.toUInt64),
    (59, .unsigned effectivePriority.toUInt64), qos, (9, .unsigned config.domainId.toUInt64),
    (8, .text config.supportRow.id)]

def channelReadyAllow (config : GatewayConfig jwt) (correlation : List UInt8)
    (channelId : UInt32) (effectivePriority : UInt8) (effectiveQos : EffectiveQos) : CborValue :=
  channelReady config correlation channelId effectivePriority (57, effectiveQos.toWire)

/-- Reliable, volatile, the last five, automatic. -/
def keepLastFive : CborValue :=
  .map [(1, .unsigned 1), (2, .unsigned 2), (3, .unsigned 1), (4, .unsigned 5), (7, .unsigned 1)]

/-- One profile five times: goal, result, cancel, feedback and status. -/
def actionProfile (profile : CborValue) : CborValue :=
  .map [(1, profile), (2, profile), (3, profile), (4, profile), (5, profile)]

def effectiveServiceQosWire : CborValue := keepLastFive

def effectiveActionQosWire : CborValue := actionProfile keepLastFive

def channelReadyServiceAllow (config : GatewayConfig jwt) (correlation : List UInt8)
    (channelId : UInt32) (effectivePriority : UInt8) : CborValue :=
  channelReady config correlation channelId effectivePriority (60, effectiveServiceQosWire)

def channelReadyActionAllow (config : GatewayConfig jwt) (correlation : List UInt8)
    (channelId : UInt32) (effectivePriority : UInt8) : CborValue :=
  channelReady config correlation channelId effectivePriority (58, effectiveActionQosWire)

/-- A refused ChannelReady with an embedded channel-scope error body. -/
def channelReadyError (correlation : List UInt8) (channelId : UInt32) (code : UInt8)
    (message : String) : CborValue :=
  .map [
    (1, .unsigned 9), (2, .bytes correlation), (29, .unsigned channelId.toUInt64),
    (33, .unsigned 3),
    (15, .map [(48, .unsigned code.toUInt64), (49, .unsigned 1), (51, .text message)])]

/-! ## The graph -/

def demoSchemaIdentity (row : SupportRow) : CborValue :=
  .map [(1, .text row.schemaScheme), (2, .text (if row.isHumble then bundleDemo else rihsDemo))]

def advertisedTopicQosWire : CborValue := keepLastFive

def advertisedActionQosWire : CborValue := actionProfile keepLastFive

/-- The last 16 bytes of an id, padded in front. -/
def padId16 (id : List UInt8) : List UInt8 :=
  let n := min id.length 16
  List.replicate (16 - n) 0 ++ id.drop (id.length - n)

def graphNodeValue (node : GraphNodeInfo) : CborValue :=
  .map ([(55, CborValue.bytes (padId16 node.id)), (1, CborValue.text node.name)] ++
    Encode.optEntry 2 node.nodeNamespace .text ++ [(9, CborValue.unsigned node.domainId.toUInt64)])

def graphEndpointValue (endpoint : GraphEndpointInfo) (row : SupportRow) : CborValue :=
  .map [
    (56, .bytes (padId16 endpoint.id)), (55, .bytes (padId16 endpoint.nodeId)),
    (1, .text endpoint.name), (2, .unsigned endpoint.kind.toUInt64),
    (3, .text endpoint.typeName), (4, demoSchemaIdentity row), (5, .unsigned 1),
    (6, .unsigned 0),
    if endpoint.kind ≤ 3 then (7, advertisedTopicQosWire) else (58, advertisedActionQosWire),
    (9, .unsigned endpoint.domainId.toUInt64), (8, .text row.id)]

/-- The order of padded ids, as byte arrays are compared. -/
def idLe (a b : List UInt8) : Bool := !Control.bytesLt b a

def sortedGraphNodes (view : GraphView) : List CborValue :=
  (view.nodes.insertionSort fun a b => idLe (padId16 a.id) (padId16 b.id)).map graphNodeValue

def sortedGraphEndpoints (view : GraphView) (row : SupportRow) : List CborValue :=
  (view.endpoints.insertionSort fun a b => idLe (padId16 a.id) (padId16 b.id)).map fun endpoint =>
    graphEndpointValue endpoint row

def graphSnapshot (config : GatewayConfig jwt) (correlation : List UInt8) (generation : UInt64)
    (view : GraphView) : CborValue :=
  .map [
    (1, .unsigned 3), (2, .bytes correlation), (14, .unsigned generation),
    (7, .text config.gatewayInstanceId), (8, .text config.supportRow.id),
    (22, .array (sortedGraphNodes view)),
    (23, .array (sortedGraphEndpoints view config.supportRow))]

def graphDelta (config : GatewayConfig jwt) (correlation : List UInt8)
    (baseGeneration generation : UInt64) (ops : List CborValue) : CborValue :=
  .map [
    (1, .unsigned 4), (2, .bytes correlation), (14, .unsigned generation),
    (24, .unsigned baseGeneration), (7, .text config.gatewayInstanceId),
    (8, .text config.supportRow.id), (25, .array ops)]

def graphDeltaAddEndpoint (endpoint : GraphEndpointInfo) (row : SupportRow) : CborValue :=
  .map [(1, .unsigned 2), (3, graphEndpointValue endpoint row)]

/-! ## Heartbeats and errors -/

def heartbeat (counter : UInt64) : CborValue :=
  .map [(1, .unsigned 12), (2, .bytes zeroCorrelation), (40, .unsigned counter)]

def sessionErrorWithCorrelation (correlation : List UInt8) (code : UInt8) (message : String) :
    CborValue :=
  .map [
    (1, .unsigned 15), (2, .bytes correlation), (48, .unsigned code.toUInt64),
    (49, .unsigned 0), (51, .text message)]

def sessionError (code : UInt8) (message : String) : CborValue :=
  sessionErrorWithCorrelation zeroCorrelation code message

/-- A flat Error of channel scope. -/
def channelError (channelId : UInt32) (code : UInt8) (message : String) : CborValue :=
  .map [
    (1, .unsigned 15), (2, .bytes zeroCorrelation), (48, .unsigned code.toUInt64),
    (49, .unsigned 1), (29, .unsigned channelId.toUInt64), (51, .text message)]

end Gateway
end Rclweb
