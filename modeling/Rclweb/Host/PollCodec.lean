import Rclweb.Engine.Types
import Rclweb.Library.ByteReader
import Rclweb.Library.TextDecoder

/-!
# The result of a poll on its way to the host

The engine writes a poll outcome into one flat buffer, and the host reads it back: a header with
three counts and a deadline, the outbound messages, the events and the released buffers.  Both
sides spell out each record by hand.  The host has a second decoder for the one result it sees most,
a single sample without text, which it knows by the length of the buffer.

Reading past the end of a buffer gives `undefined` in the host, and zeros where bytes are put
together to a number.
-/

namespace Rclweb

open Engine LittleEndian ByteReader

namespace Host

def resultMagic : ℕ := 0x52434c52
def layoutVersion : ℕ := 1

@[match_pattern] abbrev appBootstrapComplete : UInt8 := 1
@[match_pattern] abbrev appSessionReady : UInt8 := 2
@[match_pattern] abbrev appSubscribed : UInt8 := 3
@[match_pattern] abbrev appSubscribeFailed : UInt8 := 4
@[match_pattern] abbrev appSample : UInt8 := 5
@[match_pattern] abbrev appHeartbeat : UInt8 := 6
@[match_pattern] abbrev appError : UInt8 := 7
@[match_pattern] abbrev appClosed : UInt8 := 8
@[match_pattern] abbrev appPublished : UInt8 := 9
@[match_pattern] abbrev appPublishFailed : UInt8 := 10
@[match_pattern] abbrev appServiceReady : UInt8 := 11
@[match_pattern] abbrev appServiceFailed : UInt8 := 12
@[match_pattern] abbrev appServiceRequest : UInt8 := 13
@[match_pattern] abbrev appServiceResponse : UInt8 := 14
@[match_pattern] abbrev appActionReady : UInt8 := 15
@[match_pattern] abbrev appActionFailed : UInt8 := 16
@[match_pattern] abbrev appActionGoal : UInt8 := 17
@[match_pattern] abbrev appActionFeedback : UInt8 := 18
@[match_pattern] abbrev appActionResult : UInt8 := 19
@[match_pattern] abbrev appActionStatus : UInt8 := 20
@[match_pattern] abbrev appGraphSnapshot : UInt8 := 21
@[match_pattern] abbrev appGraphDelta : UInt8 := 22
@[match_pattern] abbrev appOperationCancelled : UInt8 := 23

/-! ## Encoding -/

def writeU16 (n : ℕ) : List UInt8 := toBytes 2 n
def writeU32 (n : ℕ) : List UInt8 := toBytes 4 n
def writeU64 (n : ℕ) : List UInt8 := toBytes 8 n

/-- A text behind its length, which is cut to 16 bits. -/
def writeText16 (s : String) : List UInt8 :=
  writeU16 (BigEndian.utf8 s).length ++ BigEndian.utf8 s

/-- A text behind its length, which is cut to 32 bits. -/
def writeText32 (s : String) : List UInt8 :=
  writeU32 (BigEndian.utf8 s).length ++ BigEndian.utf8 s

/-- The text of a sample, which may be absent. -/
def writeStringData : Option String → List UInt8
  | some s => writeText32 s
  | none => writeU32 0xffffffff

/-- A byte and three of padding. -/
def writePadded (b : UInt8) : List UInt8 := [b, 0, 0, 0]

def phaseToU8 : SessionPhase → UInt8
  | .awaitClientHello => 0
  | .awaitServerHello => 1
  | .selectedAwaitAuthenticate => 2
  | .selectedAwaitSessionReady => 3
  | .ready => 4
  | .bootstrapFailed => 5
  | .failed => 6

section

variable (payloadView : UInt32 → UInt32 × UInt32)

def encodeLeasedOpidEvent (kind : UInt8) (event : OperationEvent) : List UInt8 :=
  writePadded kind ++ writeU32 event.channelId.toNat ++ event.operationId ++
    writeU32 event.leaseId.toNat ++ writeU64 event.sequence.toNat ++
    writeU32 (payloadView event.leaseId).1.toNat ++ writeU32 (payloadView event.leaseId).2.toNat

def encodeAppEvent : AppEvent → List UInt8
  | .bootstrapComplete selectedWireVersion =>
    writePadded appBootstrapComplete ++ writePadded selectedWireVersion
  | .sessionReady supportRow domainId gatewayInstanceId =>
    writePadded appSessionReady ++ writePadded domainId ++ writeText16 supportRow ++
      writeText16 gatewayInstanceId
  | .subscribed channelId topic typeName =>
    writePadded appSubscribed ++ writeU32 channelId.toNat ++ writeText16 topic ++
      writeText16 typeName
  | .subscribeFailed channelId code message =>
    writePadded appSubscribeFailed ++ writeU32 channelId.toNat ++ writePadded code ++
      writeText16 message
  | .published channelId topic typeName qosReliability =>
    writePadded appPublished ++ writeU32 channelId.toNat ++ writePadded qosReliability ++
      writeText16 topic ++ writeText16 typeName
  | .publishFailed channelId code message =>
    writePadded appPublishFailed ++ writeU32 channelId.toNat ++ writePadded code ++
      writeText16 message
  | .sample channelId leaseId sequence sourceTimeNs stringData =>
    writePadded appSample ++ writeU32 channelId.toNat ++ writeU32 leaseId.toNat ++
      writeU64 sequence.toNat ++ writeU64 sourceTimeNs.toUInt64.toNat ++
      writeU32 (payloadView leaseId).1.toNat ++ writeU32 (payloadView leaseId).2.toNat ++
      writeStringData stringData
  | .heartbeat counter => writePadded appHeartbeat ++ writeU64 counter.toNat
  | .error code message => writePadded appError ++ writePadded code ++ writeText16 message
  | .closed phase => writePadded appClosed ++ writePadded (phaseToU8 phase)
  | .serviceReady channelId name typeName client =>
    writePadded appServiceReady ++ writeU32 channelId.toNat ++ writePadded client.toUInt8 ++
      writeText16 name ++ writeText16 typeName
  | .serviceFailed channelId code message =>
    writePadded appServiceFailed ++ writeU32 channelId.toNat ++ writePadded code ++
      writeText16 message
  | .serviceRequest event => encodeLeasedOpidEvent payloadView appServiceRequest event
  | .serviceResponse event => encodeLeasedOpidEvent payloadView appServiceResponse event
  | .actionReady channelId name typeName client =>
    writePadded appActionReady ++ writeU32 channelId.toNat ++ writePadded client.toUInt8 ++
      writeText16 name ++ writeText16 typeName
  | .actionFailed channelId code message =>
    writePadded appActionFailed ++ writeU32 channelId.toNat ++ writePadded code ++
      writeText16 message
  | .actionGoal event => encodeLeasedOpidEvent payloadView appActionGoal event
  | .actionFeedback event => encodeLeasedOpidEvent payloadView appActionFeedback event
  | .actionResult event => encodeLeasedOpidEvent payloadView appActionResult event
  | .actionStatus event => encodeLeasedOpidEvent payloadView appActionStatus event
  | .graphSnapshot generation nodesJson endpointsJson =>
    writePadded appGraphSnapshot ++ writeU64 generation.toNat ++ writeText32 nodesJson ++
      writeText32 endpointsJson
  | .graphDelta generation => writePadded appGraphDelta ++ writeU64 generation.toNat
  | .operationCancelled channelId code message =>
    writePadded appOperationCancelled ++ writeU32 channelId.toNat ++ writePadded code ++
      writeText16 message

/-- The inline form: the pointer is not used, the bytes follow. -/
def encodeOutbound (msg : OutboundMessage) : List UInt8 :=
  writeU32 msg.bufferId.toNat ++ writeU32 0 ++ writeU32 msg.bytes.length ++ msg.bytes

def encodeReleased (released : ReleasedBuffer) : List UInt8 :=
  writeU32 released.bufferId.toNat ++ writeU32 released.len.toNat

/-- A deadline, or minus one. -/
def writeDeadline : Option UInt64 → List UInt8
  | some ms => writeU64 ms.toNat
  | none => writeU64 0xffffffffffffffff

/-- **`encode_poll_result_into`**, onto an empty buffer. -/
def encodePollResult (outcome : PollOutcome) : List UInt8 :=
  writeU32 resultMagic ++ writeU16 layoutVersion ++ writeU16 0 ++
    writeU32 outcome.outbound.length ++ writeU32 outcome.events.length ++
    writeU32 outcome.releasedBuffers.length ++
    writeDeadline outcome.nextDeadlineMs ++
    outcome.outbound.flatMap encodeOutbound ++
    outcome.events.flatMap (encodeAppEvent payloadView) ++
    outcome.releasedBuffers.flatMap encodeReleased

end

/-! ## Decoding -/

/-- The operation events of the browser code. -/
structure BrowserOperation where
  channelId : ℕ
  operationId : List UInt8
  leaseId : ℕ
  sequence : ℕ
  payloadPtr : ℕ
  payloadLen : ℕ
  deriving DecidableEq, Repr

/-- **An event object of the browser code** (`AppEvent` of `wasm/abi.ts`); single bytes may be
`undefined`. -/
inductive BrowserEvent where
  | bootstrapComplete (selectedWireVersion : Option UInt8)
  | sessionReady (domainId : Option UInt8) (supportRow gatewayInstanceId : String)
  | subscribed (channelId : ℕ) (topic typeName : String)
  | subscribeFailed (channelId : ℕ) (code : Option UInt8) (message : String)
  | published (channelId : ℕ) (topic typeName : String) (qosReliability : Option UInt8)
  | publishFailed (channelId : ℕ) (code : Option UInt8) (message : String)
  | sample (channelId leaseId sequence : ℕ) (sourceTimeNs : ℤ) (payloadPtr payloadLen : ℕ)
      (stringData : Option String)
  | heartbeat (counter : ℕ)
  | error (code : Option UInt8) (message : String)
  | closed (phase : Option UInt8)
  | serviceReady (channelId : ℕ) (name typeName : String) (client : Bool)
  | serviceFailed (channelId : ℕ) (code : Option UInt8) (message : String)
  | serviceRequest (event : BrowserOperation)
  | serviceResponse (event : BrowserOperation)
  | actionReady (channelId : ℕ) (name typeName : String) (client : Bool)
  | actionFailed (channelId : ℕ) (code : Option UInt8) (message : String)
  | actionGoal (event : BrowserOperation)
  | actionFeedback (event : BrowserOperation)
  | actionResult (event : BrowserOperation)
  | actionStatus (event : BrowserOperation)
  | graphSnapshot (generation : ℕ) (nodesJson endpointsJson : String)
  | graphDelta (generation : ℕ)
  | operationCancelled (channelId : ℕ) (code : Option UInt8) (message : String)
  deriving DecidableEq, Repr

/-- **A decoded poll result** (`PollResult` of `wasm/abi.ts`). -/
structure DecodedPoll where
  outbound : List (ℕ × List UInt8)
  events : List BrowserEvent
  released : List (ℕ × ℕ)
  nextDeadlineMs : Option ℤ
  deriving DecidableEq, Repr

/-- `BigInt.asIntN(8 * k, n)`, and `n | 0` for four bytes. -/
def asIntN (k n : ℕ) : ℤ := if n < 2 ^ (8 * k - 1) then n else (n : ℤ) - 2 ^ (8 * k)

/-- The number at an offset. -/
def natAt (k : ℕ) (bytes : List UInt8) (offset : ℕ) : ℕ := ofBytes ((bytes.drop offset).take k)

/-- `bytes[offset]!; offset += 4`. -/
def padded : ByteReader String (Option UInt8) := do
  let b ← byte
  skip 3
  pure b

def text16 : ByteReader String String := do
  let len ← nat 2
  let bytes ← take len
  pure (TextDecoder.decode bytes)

def text32 : ByteReader String String := do
  let len ← nat 4
  let bytes ← take len
  pure (TextDecoder.decode bytes)

def readOutbound : ByteReader String (ℕ × List UInt8) := do
  let bufferId ← nat 4
  let _ptr ← nat 4
  let len ← nat 4
  let payload ← take len
  pure (bufferId, payload)

def readReleased : ByteReader String (ℕ × ℕ) := do
  let bufferId ← nat 4
  let len ← nat 4
  pure (bufferId, len)

def readOperation : ByteReader String BrowserOperation := do
  let channelId ← nat 4
  let operationId ← take 16
  let leaseId ← nat 4
  let sequence ← nat 8
  let payloadPtr ← nat 4
  let payloadLen ← nat 4
  pure { channelId, operationId, leaseId, sequence, payloadPtr, payloadLen }

/-- Channel, code and message. -/
def readFailure (f : ℕ → Option UInt8 → String → BrowserEvent) : ByteReader String BrowserEvent := do
  let channelId ← nat 4
  let code ← padded
  let message ← text16
  pure (f channelId code message)

/-- Channel, role, name and type. -/
def readReady (f : ℕ → String → String → Bool → BrowserEvent) : ByteReader String BrowserEvent := do
  let channelId ← nat 4
  let client ← padded
  let name ← text16
  let typeName ← text16
  pure (f channelId name typeName (client != some 0))

def readSample : ByteReader String BrowserEvent := do
  let channelId ← nat 4
  let leaseId ← nat 4
  let sequence ← nat 8
  let sourceTimeNs ← nat 8
  let payloadPtr ← nat 4
  let payloadLen ← nat 4
  let stringLen ← nat 4
  if 0 ≤ asIntN 4 stringLen then
    let bytes ← take stringLen
    pure (.sample channelId leaseId sequence (asIntN 8 sourceTimeNs) payloadPtr payloadLen
      (some (TextDecoder.decode bytes)))
  else
    pure (.sample channelId leaseId sequence (asIntN 8 sourceTimeNs) payloadPtr payloadLen none)

/-- **One event record.** -/
def readEvent : ByteReader String BrowserEvent := do
  let kind ← padded
  match kind with
  | some appBootstrapComplete =>
    let selectedWireVersion ← padded
    pure (.bootstrapComplete selectedWireVersion)
  | some appSessionReady =>
    let domainId ← padded
    let supportRow ← text16
    let gatewayInstanceId ← text16
    pure (.sessionReady domainId supportRow gatewayInstanceId)
  | some appSubscribed =>
    let channelId ← nat 4
    let topic ← text16
    let typeName ← text16
    pure (.subscribed channelId topic typeName)
  | some appSubscribeFailed => readFailure .subscribeFailed
  | some appPublished =>
    let channelId ← nat 4
    let qosReliability ← padded
    let topic ← text16
    let typeName ← text16
    pure (.published channelId topic typeName qosReliability)
  | some appPublishFailed => readFailure .publishFailed
  | some appSample => readSample
  | some appHeartbeat =>
    let counter ← nat 8
    pure (.heartbeat counter)
  | some appError =>
    let code ← padded
    let message ← text16
    pure (.error code message)
  | some appClosed =>
    let phase ← padded
    pure (.closed phase)
  | some appServiceReady => readReady .serviceReady
  | some appActionReady => readReady .actionReady
  | some appServiceFailed => readFailure .serviceFailed
  | some appActionFailed => readFailure .actionFailed
  | some appOperationCancelled => readFailure .operationCancelled
  | some appServiceRequest => .serviceRequest <$> readOperation
  | some appServiceResponse => .serviceResponse <$> readOperation
  | some appActionGoal => .actionGoal <$> readOperation
  | some appActionFeedback => .actionFeedback <$> readOperation
  | some appActionResult => .actionResult <$> readOperation
  | some appActionStatus => .actionStatus <$> readOperation
  | some appGraphSnapshot =>
    let generation ← nat 8
    let nodesJson ← text32
    let endpointsJson ← text32
    pure (.graphSnapshot generation nodesJson endpointsJson)
  | some appGraphDelta =>
    let generation ← nat 8
    pure (.graphDelta generation)
  | some kind => fail s!"unknown app event kind {kind}"
  | none => fail "unknown app event kind undefined"

def deadlineOf (raw : ℕ) : Option ℤ := if asIntN 8 raw < 0 then none else some (asIntN 8 raw)

/-- What stands behind the header. -/
def readRecords (outboundCount eventCount releasedCount : ℕ) (nextDeadlineMs : Option ℤ) :
    ByteReader String DecodedPoll := do
  let outbound ← repeated readOutbound outboundCount
  let events ← repeated readEvent eventCount
  let released ← repeated readReleased releasedCount
  pure { outbound, events, released, nextDeadlineMs }

/-- The general decoder. -/
def decodeGeneral (bytes : List UInt8) : Except String DecodedPoll :=
  (readRecords (natAt 4 bytes 8) (natAt 4 bytes 12) (natAt 4 bytes 16)
    (deadlineOf (natAt 8 bytes 20)) (bytes.drop 28)).map (·.1)

/-- One sample, without text, and nothing else. -/
def isSingleSample (bytes : List UInt8) : Bool :=
  natAt 4 bytes 8 == 0 && natAt 4 bytes 12 == 1 && natAt 4 bytes 16 == 0 && bytes.length == 68 &&
    bytes[28]? == some appSample && asIntN 4 (natAt 4 bytes 64) < 0

/-- The decoder of that result. -/
def decodeSingleSample (bytes : List UInt8) : DecodedPoll where
  outbound := []
  events :=
    [.sample (natAt 4 bytes 32) (natAt 4 bytes 36) (natAt 8 bytes 40)
      (asIntN 8 (natAt 8 bytes 48)) (natAt 4 bytes 56) (natAt 4 bytes 60) none]
  released := []
  nextDeadlineMs := deadlineOf (natAt 8 bytes 20)

/-- **`decodePollResult`.** -/
def decodePollResult (bytes : List UInt8) : Except String DecodedPoll :=
  if bytes.length < 28 then .error "poll result truncated"
  else if natAt 4 bytes 0 ≠ resultMagic then .error "poll result bad magic"
  else if natAt 2 bytes 4 ≠ layoutVersion then .error "poll result bad version"
  else if isSingleSample bytes then .ok (decodeSingleSample bytes)
  else decodeGeneral bytes

end Host
end Rclweb
